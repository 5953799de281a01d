import IdentityMap.Proofs.Store.AtRest
import IdentityMap.Proofs.Store.Schedule
import IdentityMap.Proofs.Store.Announcements
/-!
# Refreshing twice

A refresh that succeeds on tables that nobody writes to leaves nothing to do for the next one
(`Store.refresh_twice`). Its requests are about different types. Each of them settles the cache of
its type, and the later ones leave this cache alone (`Store.askAll_settles`). Asked once more, they
find everything settled (`Store.askAll_again`), so that nothing is left to see of the second refresh
but revisions and round trips (`Store.RefreshedAgain`).
-/

namespace IdentityMap

open RowStore (Queried AtRest)

variable {σ τ : Type} [RowStore σ]

/-! ### Settled types -/

/-- A request that succeeds is about a registered type. -/
theorem Request.Refreshes.registered {n : String} {r : Request} (refreshes : r.Refreshes n)
    {s s' : Session σ} {observed : String → Bool} {handles : List Handle}
    (run : r.run observed s = (.ok handles, s')) : ∃ c, s.caches.get? n = some c := by
  cases cached : s.caches.get? n with
  | some c => exact ⟨c, rfl⟩
  | none =>
    exfalso
    have failed : (Work.resolve n : Work σ _) s = (.error (.unregisteredType n), s) := by
      simp [Work.resolve, CacheSet.cache, cached]
    have ran : ∃ e t, r.run observed s = (.error e, t) := by
      cases refreshes with
      | getSome keys => exact ⟨_, _, bind_of_error failed⟩
      | keys keys => exact ⟨_, _, bind_of_error failed⟩
      | getAll => exact ⟨_, _, bind_of_error failed⟩
      | type =>
        have refused : Session.refreshType n s = (.error (.unregisteredType n), s) :=
          bind_of_error failed
        exact ⟨_, s, congrArg (Session.instancesIn fun _ => []) refused⟩
    obtain ⟨e, t, ran⟩ := ran
    rw [run] at ran
    cases ran

/-- To refresh a type is to read whatever is cached of it. -/
theorem Request.covers_refreshType {n : String} {c : IdentityCache} {key : EntityKey}
    {i : Instance} (cached : c.get? key = some i) :
    ((Request.refreshType n).scope c).Covers key := by
  show (if c.synced then RefreshScope.table else .keys c.keys).Covers key
  split
  · trivial
  · exact OrderedMap.mem_keys_iff.2 ⟨i, cached⟩

namespace Session

variable {s s' t : Session σ} {r r' : Request} {requests rest : List Request}
  {answer : Except Error (List Handle)} {answers : List (Except Error (List Handle))}

/-- The table of the type of a request is at rest, and the cache holds what the request has
answered with. -/
def Rests (s : Session σ) (r : Request) (answer : Except Error (List Handle)) : Prop :=
  ∃ n c all handles, r.Refreshes n ∧ s.caches.get? n = some c ∧
    AtRest s.gateway.dialect c.entityType all s.gateway.rows ∧ r.Settled all c handles ∧
    answer = .ok handles

/-- Between the two sessions there were only queries. The types are the same, and the caches of
those that no request is about. -/
structure Beside (requests : List Request) (s s' : Session σ) : Prop where
  dialect : s'.gateway.dialect = s.gateway.dialect
  queried : Queried s.gateway.rows s'.gateway.rows
  types : s'.caches.keys = s.caches.keys
  others : ∀ n, some n ∉ requests.map Request.typeName? → s'.caches.get? n = s.caches.get? n

theorem Beside.refl (s : Session σ) : Beside [] s s := ⟨rfl, .refl, rfl, fun _ _ => rfl⟩

theorem Beside.of_insert {n : String} {c c' : IdentityCache} {rows : σ}
    (about : r.typeName? = some n) (cached : s.caches.get? n = some c)
    (queried : Queried s.gateway.rows rows) (dialect : s'.gateway.dialect = s.gateway.dialect)
    (asked : s'.gateway.rows = rows) (changed : s'.caches = s.caches.insert n c') :
    Beside [r] s s' := by
  refine ⟨dialect, asked ▸ queried, ?_, fun m absent => ?_⟩
  · rw [changed]
    exact OrderedMap.keys_insert_of_get? cached c'
  · rw [changed]
    refine OrderedMap.get?_insert_of_ne _ _ ?_
    rintro rfl
    exact absent (by simp [about])

theorem Beside.cons (first : Beside [r] s t) (later : Beside rest t s') :
    Beside (r :: rest) s s' where
  dialect := later.dialect.trans first.dialect
  queried := first.queried.trans later.queried
  types := later.types.trans first.types
  others n absent := by
    rw [List.map_cons, List.mem_cons, not_or] at absent
    exact (later.others n absent.2).trans (first.others n (by simpa using absent.1))

theorem Rests.beside (rests : s.Rests r answer) (beside : Beside requests s s')
    (other : r.typeName? ∉ requests.map Request.typeName?) : s'.Rests r answer := by
  obtain ⟨n, c, all, handles, refreshes, cached, rest, settled, same⟩ := rests
  rw [refreshes.typeName?] at other
  refine ⟨n, c, all, handles, refreshes, (beside.others n other).trans cached, ?_, settled, same⟩
  rw [beside.dialect]
  exact rest.queried beside.queried

theorem Rests.beside_all (rests : List.Forall₂ s.Rests requests answers) (beside : Beside [r] s s')
    (other : r.typeName? ∉ requests.map Request.typeName?) :
    List.Forall₂ s'.Rests requests answers := by
  induction rests with
  | nil => exact .nil
  | cons first _ ih =>
    rw [List.map_cons, List.mem_cons, not_or] at other
    exact .cons (first.beside beside (by simpa using Ne.symm other.1)) (ih other.2)

/-- How many queries a request sends that reads rows anew. -/
def queriesOf (s : Session σ) (r : Request) : Nat :=
  match r.typeName?.bind s.caches.get? with
  | some c => (r.scope c).queries
  | none => 0

theorem queriesOf_beside (beside : Beside [r'] s s') (other : r.typeName? ≠ r'.typeName?) :
    s'.queriesOf r = s.queriesOf r := by
  unfold queriesOf
  cases about : r.typeName? with
  | none => rfl
  | some n =>
    have same := beside.others n (by simpa [← about] using other)
    simp only [Option.bind_some, same]

end Session

/-! ### Requests in a row -/

namespace Store

variable [TriggerHost τ] {s s' : Store σ τ} {requests : List Request}
  {answers : List (Except Error (List Handle))}

/-- What requests answer, one after the other. -/
def answersTo : List Request → Store σ τ → List (Except Error (List Handle))
  | [], _ => []
  | r :: rest, s => (s.ask r).1 :: answersTo rest (s.ask r).2

open Session in
/-- Requests about different types that all succeed settle the cache of each of them. -/
theorem askAll_settles (refreshes : ∀ r ∈ requests, ∃ n, r.Refreshes n)
    (once : (requests.map Request.typeName?).Nodup) (sound : s.session.Sound)
    (rest : ∀ r ∈ requests, ∀ n c, r.Refreshes n → s.session.caches.get? n = some c →
      ∃ all, AtRest s.session.gateway.dialect c.entityType all s.session.gateway.rows)
    (done : ∀ answer ∈ answersTo requests s, ∃ handles, answer = .ok handles) :
    List.Forall₂ (s.askAll requests).session.Rests requests (answersTo requests s) ∧
      Beside requests s.session (s.askAll requests).session := by
  induction requests generalizing s with
  | nil => exact ⟨.nil, .refl _⟩
  | cons r others ih =>
    obtain ⟨n, refresh⟩ := refreshes r List.mem_cons_self
    obtain ⟨handles, answered⟩ := done _ List.mem_cons_self
    rw [List.map_cons, List.nodup_cons] at once
    obtain ⟨fresh, once⟩ := once
    obtain ⟨_, u, ran, rfl, after, -⟩ := ask_cases r s
    rw [answered] at ran
    obtain ⟨c, cached⟩ := refresh.registered ran
    obtain ⟨all, atRest⟩ := rest r List.mem_cons_self n c refresh cached
    obtain ⟨rows, c', events, queried, type, settled, rfl⟩ :=
      refresh.settles sound cached atRest ran
    have first : Beside [r] s.session (s.ask r).2.session := by
      rw [after]
      exact .of_insert refresh.typeName? cached queried rfl rfl rfl
    have rests : (s.ask r).2.session.Rests r (s.ask r).1 := by
      rw [after, answered]
      exact ⟨n, c', all, handles, refresh, OrderedMap.get?_insert_self ..,
        type ▸ atRest.queried queried, settled, rfl⟩
    have still : ∀ r' ∈ others, ∀ m c₁, r'.Refreshes m →
        (s.ask r).2.session.caches.get? m = some c₁ →
        ∃ all, AtRest (s.ask r).2.session.gateway.dialect c₁.entityType all
          (s.ask r).2.session.gateway.rows := by
      intro r' listed m c₁ refresh' cached'
      have differ : some m ∉ [r].map Request.typeName? := by
        rw [← refresh'.typeName?, List.map_singleton, List.mem_singleton]
        exact fun same => fresh (same ▸ List.mem_map_of_mem listed)
      rw [first.others m differ] at cached'
      obtain ⟨all', atRest'⟩ := rest r' (List.mem_cons_of_mem _ listed) m c₁ refresh' cached'
      refine ⟨all', ?_⟩
      rw [first.dialect]
      exact atRest'.queried first.queried
    obtain ⟨settles, later⟩ := ih
      (fun r' listed => refreshes r' (List.mem_cons_of_mem _ listed)) once (ask_sound sound r).1
      still (fun answer listed => done answer (List.mem_cons_of_mem _ listed))
    exact ⟨.cons (rests.beside later fresh) settles, first.cons later⟩

/-- The requests have read rows anew and found everything as it was: each instance that was read
counts one more revision, and the queries are counted. -/
structure Again (requests : List Request) (s s' : Store σ τ) : Prop where
  beside : Session.Beside requests s.session s'.session
  rest : ∃ rows caches, s' = { s with
    session := { s.session with
      gateway := { s.session.gateway with
        rows
        roundTrips := s.session.gateway.roundTrips + (requests.map s.session.queriesOf).sum }
      caches } }
  reread : ∀ r ∈ requests, ∀ n c, r.Refreshes n → s.session.caches.get? n = some c →
    ∃ c', s'.session.caches.get? n = some c' ∧ c.Reread (r.scope c).Covers c'

open Session in
/-- Asked again, a request whose cache is settled answers as before and tells of nothing. -/
theorem ask_again {r : Request} {answer : Except Error (List Handle)}
    (rests : s.session.Rests r answer) (told : s.session.outbox = [])
    (sound : s.session.Sound) :
    (s.ask r).1 = answer ∧ s.dispatched r = [] ∧ s.Again [r] (s.ask r).2 := by
  obtain ⟨n, c, all, handles, refreshes, cached, atRest, settled, rfl⟩ := rests
  obtain ⟨rows, c', queried, reread, ran⟩ :=
    settled.run refreshes sound cached atRest s.dispatcher.hasTriggers
  have silent : s.dispatched r = [] := by
    rw [dispatched, ran]
    exact told
  have asked : s.ask r = (.ok handles, { s with session := { s.session with
      gateway := { s.session.gateway with
        rows, roundTrips := s.session.gateway.roundTrips + (r.scope c).queries }
      caches := s.session.caches.insert n c' } }) := by
    rw [ask_eq, silent, ran]
    simp only [told, List.foldl_nil]
  have queries : s.session.queriesOf r = (r.scope c).queries := by
    simp [queriesOf, refreshes.typeName?, cached]
  rw [asked]
  refine ⟨rfl, silent, .of_insert refreshes.typeName? cached queried rfl rfl rfl,
    ⟨rows, s.session.caches.insert n c', ?_⟩, ?_⟩
  · simp [queries]
  · intro r' listed m c₁ refreshes' cached'
    obtain rfl := List.mem_singleton.1 listed
    obtain rfl : n = m := Option.some.inj (refreshes.typeName?.symm.trans refreshes'.typeName?)
    cases cached.symm.trans cached'
    exact ⟨c', OrderedMap.get?_insert_self .., reread⟩

open Session in
/-- Requests about types whose caches are settled answer as before, and tell of nothing. -/
theorem askAll_again (rests : List.Forall₂ s.session.Rests requests answers)
    (once : (requests.map Request.typeName?).Nodup) (told : s.session.outbox = [])
    (sound : s.session.Sound) :
    answersTo requests s = answers ∧ announcedBy requests s = [] ∧
      s.Again requests (s.askAll requests) := by
  induction requests generalizing s answers with
  | nil =>
    cases rests
    exact ⟨rfl, rfl, .refl _, ⟨_, _, rfl⟩, by simp⟩
  | cons r others ih =>
    obtain _ | ⟨first, rests⟩ := rests
    rw [List.map_cons, List.nodup_cons] at once
    obtain ⟨fresh, once⟩ := once
    obtain ⟨same, silent, beside, ⟨rows, caches, changed⟩, reread⟩ := ask_again first told sound
    obtain ⟨answered, quiet, besideLater, ⟨rows', caches', changed'⟩, rereadLater⟩ :=
      ih (Rests.beside_all rests beside fresh) once (by rw [ask_session]) (ask_sound sound r).1
    have differ {r' : Request} (listed : r' ∈ others) : r'.typeName? ≠ r.typeName? :=
      fun same => fresh (same ▸ List.mem_map_of_mem listed)
    have queries : others.map (s.ask r).2.session.queriesOf = others.map s.session.queriesOf :=
      List.map_congr_left fun r' listed => queriesOf_beside beside (differ listed)
    refine ⟨?answers, ?told, beside.cons besideLater, ⟨rows', caches', ?rest⟩, ?reread⟩
    case answers => rw [answersTo, same, answered]
    case told =>
      rw [announcedBy, silent, quiet]
      rfl
    case rest =>
      show (s.ask r).2.askAll others = _
      rw [queries] at changed'
      rw [changed', changed]
      simp [Nat.add_assoc]
    case reread =>
      intro r' listed n c refreshes cached
      rcases List.mem_cons.1 listed with rfl | listed
      · obtain ⟨c', cached', again⟩ := reread r' (List.mem_singleton_self _) n c refreshes cached
        refine ⟨c', (besideLater.others n ?_).trans cached', again⟩
        rwa [← refreshes.typeName?]
      · refine rereadLater r' listed n c refreshes ((beside.others n ?_).trans cached)
        rw [← refreshes.typeName?]
        simpa using differ listed

/-! ### Operations -/

theorem answersTo_refreshTypes (names : List String) (s : Store σ τ) :
    answersTo (names.map .refreshType) s
      = (refreshTypes names s).1.map fun outcome => outcome.map fun _ => [] := by
  induction names generalizing s with
  | nil => rfl
  | cons n rest ih => exact congrArg _ (ih _)

end Store

namespace Operation

open Store

variable [TriggerHost τ] {op : Operation} {s s' : Store σ τ} {handles : List Handle}

/-- The operations that read rows anew, whatever is cached. -/
inductive Refreshes : Operation → Prop
  | refresh : Refreshes .refresh
  | request {n : String} {r : Request} (refreshes : r.Refreshes n) : Refreshes (.request r)

/-- The types whose rows an operation reads. -/
def Concerns (n : String) : Operation → Prop
  | request r => r.typeName? = some n
  | _ => True

/-- The keys of a type whose rows an operation reads, among those that are cached. -/
def Rereads : Operation → String → EntityKey → Prop
  | refresh, _, _ => True
  | request (.getSome m keys _), n, key | request (.refreshKeys m keys), n, key =>
    m = n ∧ key ∈ keys
  | request (.getAll m _), n, _ | request (.refreshType m), n, _ => m = n
  | _, _, _ => False

namespace Refreshes

theorem asked_refreshes (refreshes : op.Refreshes) (s : Store σ τ) :
    ∀ r ∈ op.asked s, ∃ n, r.Refreshes n ∧ op.Concerns n := by
  intro r listed
  cases refreshes with
  | refresh =>
    obtain ⟨n, -, rfl⟩ := List.mem_map.1 listed
    exact ⟨n, .type, trivial⟩
  | request refreshes =>
    obtain rfl := List.mem_singleton.1 listed
    exact ⟨_, refreshes, refreshes.typeName?⟩

theorem once (refreshes : op.Refreshes) (s : Store σ τ) :
    ((op.asked s).map Request.typeName?).Nodup := by
  cases refreshes with
  | refresh =>
    have names : ((Operation.refresh).asked s).map Request.typeName?
        = s.session.caches.keys.map some := by
      simp [asked, Request.typeName?, Function.comp_def]
    rw [names]
    exact (OrderedMap.nodup_keys s.session.caches).map (Option.some_injective _)
  | request refreshes => simp [asked]

theorem run_snd (refreshes : op.Refreshes) (s : Store σ τ) :
    (op.run s).2 = s.askAll (op.asked s) := by
  rw [op.run_asked]
  cases refreshes <;> rfl

theorem refresh_ok_iff : ((Operation.refresh).run s).1 = .ok handles ↔ handles = [] ∧
    ∀ answer ∈ answersTo ((Operation.refresh).asked s) s, ∃ handles, answer = .ok handles := by
  have outcome : ((Operation.refresh).run s).1 = (Store.refresh s).1.map fun _ => [] := rfl
  have each :
      (∀ answer ∈ answersTo ((Operation.refresh).asked s) s, ∃ handles, answer = .ok handles)
        ↔ (Store.refresh s).1 = .ok () := by
    rw [refresh_eq_ok, asked, answersTo_refreshTypes, List.forall_mem_map]
    refine forall_congr' fun o => forall_congr' fun _ => ?_
    cases o <;> simp [Except.map]
  rw [outcome, each]
  cases (Store.refresh s).1 <;> simp [Except.map, eq_comm]

/-- An operation that succeeds has succeeded with each of its requests. -/
theorem answered (refreshes : op.Refreshes) (done : (op.run s).1 = .ok handles) :
    ∀ answer ∈ answersTo (op.asked s) s, ∃ handles, answer = .ok handles := by
  cases refreshes with
  | refresh => exact (refresh_ok_iff.1 done).2
  | request refreshes =>
    intro answer listed
    exact ⟨handles, (List.mem_singleton.1 listed).trans done⟩

/-- What an operation answers depends on what its requests answer. -/
theorem run_fst (refreshes : op.Refreshes) (done : (op.run s).1 = .ok handles)
    (same : answersTo (op.asked s') s' = answersTo (op.asked s) s) :
    (op.run s').1 = .ok handles := by
  cases refreshes with
  | refresh =>
    rw [refresh_ok_iff] at done ⊢
    rwa [same]
  | request refreshes => exact (List.singleton_inj.1 same).trans done

variable {r : Request} {n : String} {c : IdentityCache} {key : EntityKey} {i : Instance}

/-- Of what is cached, an operation reads what its requests cover. -/
theorem covers_iff (refreshes : op.Refreshes) (listed : r ∈ op.asked s) (about : r.Refreshes n)
    (cached : c.get? key = some i) : (r.scope c).Covers key ↔ op.Rereads n key := by
  cases refreshes with
  | refresh =>
    obtain ⟨m, -, rfl⟩ := List.mem_map.1 listed
    exact iff_of_true (Request.covers_refreshType cached) trivial
  | request _ =>
    obtain rfl := List.mem_singleton.1 listed
    cases about with
    | getSome keys | keys keys => simp [Request.scope, RefreshScope.Covers, Rereads, mem_distinct]
    | getAll => exact iff_of_true trivial rfl
    | type => exact iff_of_true (Request.covers_refreshType cached) rfl

/-- An operation reads nothing of a type that none of its requests is about. -/
theorem not_rereads (refreshes : op.Refreshes) (cached : s.session.caches.get? n = some c)
    (apart : some n ∉ (op.asked s).map Request.typeName?) : ¬ op.Rereads n key := by
  cases refreshes with
  | refresh =>
    have listed : n ∈ s.session.caches.keys := OrderedMap.mem_keys_iff.2 ⟨c, cached⟩
    refine absurd ?_ apart
    exact List.mem_map.2 ⟨.refreshType n, List.mem_map_of_mem listed, rfl⟩
  | @request m r about =>
    have other : m ≠ n := by
      rintro rfl
      exact apart (List.mem_singleton.2 about.typeName?.symm)
    cases about <;> simp [Rereads, other]

end Refreshes

end Operation

/-! ### The second refresh -/

namespace Store

open Session (Beside Rests)

variable [TriggerHost τ] {op : Operation} {s s' : Store σ τ} {handles : List Handle}

/-- The operation has found everything as it was. Each cached instance that it has read counts one
more revision, its queries are counted, and that is all. -/
structure RefreshedAgain (op : Operation) (s s' : Store σ τ) : Prop where
  rest : ∃ rows caches, Queried s.session.gateway.rows rows ∧ s' = { s with
    session := { s.session with
      gateway := { s.session.gateway with
        rows
        roundTrips := s.session.gateway.roundTrips + ((op.asked s).map s.session.queriesOf).sum }
      caches } }
  types : s'.session.caches.keys = s.session.caches.keys
  caches : ∀ n c, s.session.caches.get? n = some c →
    ∃ c', s'.session.caches.get? n = some c' ∧ c.Reread (op.Rereads n) c'

theorem Again.refreshedAgain (refreshes : op.Refreshes) (again : s.Again (op.asked s) s') :
    s.RefreshedAgain op s' := by
  obtain ⟨rows, caches, changed⟩ := again.rest
  refine ⟨⟨rows, caches, ?_, changed⟩, again.beside.types, fun n c cached => ?_⟩
  · have queried := again.beside.queried
    rwa [changed] at queried
  by_cases about : some n ∈ (op.asked s).map Request.typeName?
  · obtain ⟨r, listed, named⟩ := List.mem_map.1 about
    obtain ⟨m, refresh, -⟩ := refreshes.asked_refreshes s r listed
    obtain rfl : n = m := Option.some.inj (named.symm.trans refresh.typeName?)
    obtain ⟨c', cached', reread⟩ := again.reread r listed n c refresh cached
    exact ⟨c', cached', reread.of_iff fun key i found => refreshes.covers_iff listed refresh found⟩
  · refine ⟨c, (again.beside.others n about).trans cached, .refl (fun key => ?_) c⟩
    exact refreshes.not_rereads cached about

/-- Refreshing twice is refreshing once, where nobody writes to the tables. If the first refresh
succeeds, then the second one succeeds with the same instances and dispatches no event, and
nothing changes but the revisions of the instances that it has read. -/
theorem refresh_twice (reachable : s.Reachable) (refreshes : op.Refreshes)
    (rest : ∀ n c, op.Concerns n → s.session.caches.get? n = some c →
      ∃ all, AtRest s.session.gateway.dialect c.entityType all s.session.gateway.rows)
    (done : (op.run s).1 = .ok handles) :
    let s₁ := (op.run s).2
    (op.run s₁).1 = .ok handles ∧ announced [op] s₁ = [] ∧
      s₁.RefreshedAgain op (op.run s₁).2 := by
  intro s₁
  have once := refreshes.once s
  have sound₁ : s₁.session.Sound := op.run_sound reachable.sound
  have told₁ : s₁.session.outbox = [] := (op.serves s).outbox reachable.outbox
  have ran : s.askAll (op.asked s) = s₁ := (refreshes.run_snd s).symm
  have settles := askAll_settles
    (fun r listed => (refreshes.asked_refreshes s r listed).imp fun _ about => about.1) once
    reachable.sound
    (fun r listed n c about cached => by
      obtain ⟨m, refresh, concerns⟩ := refreshes.asked_refreshes s r listed
      obtain rfl : m = n := Option.some.inj (refresh.typeName?.symm.trans about.typeName?)
      exact rest m c concerns cached)
    (refreshes.answered done)
  rw [ran] at settles
  obtain ⟨rests, beside⟩ := settles
  -- the first run registers nothing, so the second one makes the same requests
  have asked : op.asked s₁ = op.asked s := by
    cases refreshes with
    | refresh => exact congrArg (List.map Request.refreshType) beside.types
    | request _ => rfl
  obtain ⟨answers, silent, again⟩ := askAll_again rests once told₁ sound₁
  rw [← asked, ← refreshes.run_snd s₁] at again
  refine ⟨refreshes.run_fst done (by rw [asked, answers]), ?_, again.refreshedAgain refreshes⟩
  rw [announced, asked, silent]
  rfl

end Store

/-! ### Tables that stand still -/

namespace Sample

/-- A row store that nobody can write to. It brings the rows with the keys that are asked for, or
all rows of a table. -/
structure Still where
  rows : String → List Row

namespace Still

/-- The rows that a statement asks for. -/
def answer (store : Still) (s : Sql.Statement) (params : List Value) : List Row :=
  match s.command with
  | .selectKeys table _ key _ =>
    (store.rows table).filter fun row => ∃ v ∈ params, row.byName? key = some v
  | .selectAll table _ _ => store.rows table
  | _ => []

instance : RowStore Still where
  query s params store := (.ok (store.answer s params), store)
  execute _ _ store := (.ok 1, store)
  executeBatch _ paramSets store := (.ok paramSets.length, store)
  insertReturningKey _ _ store := (.ok .null, store)

theorem eq_of_queried {store later : Still} (queried : Queried store later) : later = store := by
  induction queried with
  | refl => rfl
  | query _ _ _ ih => exact ih

theorem atRest (store : Still) (d : Sql.Dialect) (t : EntityType)
    (distinct : ((store.rows t.table).filterMap t.keyIn?).Nodup)
    (numbers : ∀ row ∈ store.rows t.table, ∀ v ∈ row.values, v.isNaN = false) :
    AtRest d t (store.rows t.table) store where
  listed later queried := by
    rw [eq_of_queried queried]
    rfl
  found later queried keys statement produced := by
    refine ⟨_, rfl, .of_eq ?_⟩
    rw [eq_of_queried queried, Sql.Dialect.eq_of_selectKeys_eq_ok produced]
    refine List.filter_congr fun row _ => decide_eq_decide.2 ⟨?_, ?_⟩
    · rintro ⟨v, param, here⟩
      obtain ⟨key, asked, rfl⟩ := List.mem_map.1 param
      exact ⟨key, asked, (congrArg (·.bind EntityKey.ofValue?) here).trans
        (EntityKey.ofValue?_toValue key)⟩
    · rintro ⟨key, asked, own⟩
      obtain ⟨v, here, made⟩ := Option.bind_eq_some_iff.1 own
      obtain rfl := EntityKey.toValue_of_ofValue? made
      exact ⟨_, List.mem_map_of_mem asked, here⟩
  distinct := distinct
  numbers := numbers

end Still

/-- A store in front of a table that has the first gauge at another level, and a third one. -/
def still : Store Still ScriptedHost where
  session := {
    settings := { createTables := false }
    gateway := { dialect := Sql.Dialect.ansi, rows := ⟨fun _ => [row 1 7, row 3 9]⟩ } }
  host := {}

/-- The keys and revisions of the cached gauges. -/
def revisions (s : Store Still ScriptedHost) : Option (List (EntityKey × Nat)) :=
  (s.session.caches.get? "Gauge").map fun c =>
    c.keys.filterMap fun key => (c.get? key).map fun i => (key, i.revision)

end Sample

open Sample in
/-- Two gauges were created. Reading their table raises the first one, drops the second one and
brings a third one. Reading it again, there is nothing to tell. -/
theorem Store.refresh_twice_gauges :
    let s := still.after [.request (.register gauge),
      .request (.persist ⟨gauge, .create, level 1 5⟩),
      .request (.persist ⟨gauge, .create, level 2 5⟩)]
    let read := Operation.request (.getAll "Gauge" .forceRefresh)
    let s₁ := (read.run s).2
    (read.run s).1 = .ok [⟨"Gauge", .int 1, 0⟩, ⟨"Gauge", .int 3, 2⟩] ∧
      (read.run s₁).1 = .ok [⟨"Gauge", .int 1, 0⟩, ⟨"Gauge", .int 3, 2⟩] ∧
      (announced [read] s).map (·.2) = [
        ⟨gauge, .int 1, .updated (level 1 5) (level 1 7)⟩,
        ⟨gauge, .int 3, .created (level 3 9)⟩,
        ⟨gauge, .int 2, .deleted (some (level 2 5))⟩] ∧
      announced [read] s₁ = [] ∧ s₁.RefreshedAgain read (read.run s₁).2 ∧
      revisions s₁ = some [(.int 1, 1), (.int 3, 0)] ∧
      revisions (read.run s₁).2 = some [(.int 1, 2), (.int 3, 1)] := by
  intro s read s₁
  have reachable : s.Reachable :=
    ⟨Sql.Dialect.ansi, { createTables := false }, still.session.gateway.rows, still.host, _, _,
      rfl, rfl⟩
  have rows : s.session.gateway.rows = still.session.gateway.rows := rfl
  have types : s.session.caches.keys = ["Gauge"] := by decide +kernel
  have type : (s.session.caches.get? "Gauge").map (·.entityType) = some gauge := by decide +kernel
  have done : (read.run s).1 = .ok [⟨"Gauge", .int 1, 0⟩, ⟨"Gauge", .int 3, 2⟩] := by
    decide +kernel
  obtain ⟨again, silent, after⟩ := Store.refresh_twice reachable (.request .getAll)
    (fun n c _ cached => by
      have named : n ∈ s.session.caches.keys := OrderedMap.mem_keys_iff.2 ⟨c, cached⟩
      rw [types, List.mem_singleton] at named
      subst named
      rw [cached, Option.map_some, Option.some_inj] at type
      rw [rows, type]
      exact ⟨_, Still.atRest _ _ gauge (by decide +kernel) (by decide +kernel)⟩) done
  refine ⟨done, again, ?_, silent, after, ?_, ?_⟩ <;> decide +kernel

end IdentityMap
