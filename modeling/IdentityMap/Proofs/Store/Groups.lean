import IdentityMap.Proofs.Store.Deletion
import IdentityMap.Proofs.Store.Schedule
/-!
# Instances of several types

Deleting or refreshing instances goes type by type, in the order in which the types are first seen.
Both are one loop (`Store.eachType`) that stops at the first type that fails, and one run lemma says
what the loop has done (`Store.eachType_groupwise`): every type before the stop has had its whole
part, the type that failed a part of its own, and nothing was sent or changed for the others. With a
ledger of what the row store has answered this says which statements go out and what the sum of the
answers is (`Store.instances_groupwise`).
-/

namespace IdentityMap

/-! ### Ledgers -/

/-- A call, and the number of rows that the row store answered with, if it did. -/
structure Entry where
  call : Call
  count : Option Nat

/-- A row store with a ledger of the calls to it. Other than in a log, the counts are seen. -/
structure Ledgered (σ : Type) where
  rows : σ
  entries : List Entry := []

namespace Ledgered

variable {σ α : Type} [RowStore σ]

/-- Pass a call on and note it, with what `count` says of the answer. -/
def pass (call : Call) (count : Except Error α → Option Nat) (f : σ → Except Error α × σ)
    (l : Ledgered σ) : Except Error α × Ledgered σ :=
  ((f l.rows).1, ⟨(f l.rows).2, l.entries ++ [⟨call, count (f l.rows).1⟩]⟩)

instance : RowStore (Ledgered σ) where
  query s params := pass ⟨.query, s, [params]⟩ (fun _ => none) (RowStore.query s params)
  execute s params := pass ⟨.execute, s, [params]⟩ Except.toOption (RowStore.execute s params)
  executeBatch s paramSets :=
    pass ⟨.executeBatch, s, paramSets⟩ Except.toOption (RowStore.executeBatch s paramSets)
  insertReturningKey s params :=
    pass ⟨.insertReturningKey, s, [params]⟩ (fun _ => none) (RowStore.insertReturningKey s params)

end Ledgered

/-- The entry is what a ledger has last, after one query at most. -/
def Entry.Ends (e : Entry) (sent : List Entry) : Prop :=
  ∃ reads : List Entry, reads.length ≤ 1 ∧ (∀ r ∈ reads, r.call.kind = .query) ∧ sent = reads ++ [e]

/-- The entry of a statement over keys. -/
def KeyList.entry (d : Sql.Dialect) (t : EntityType) (l : KeyList) (count : Option Nat) : Entry :=
  ⟨l.call d ⟨t⟩, count⟩

namespace Gateway

variable {σ : Type} [RowStore σ] {t : EntityType} {keys : List EntityKey}

/-- Some calls lead from one state of a gateway to another. -/
structure Sends (g g' : Gateway (Ledgered σ)) (sent : List Entry) : Prop where
  dialect : g'.dialect = g.dialect
  entries : g'.rows.entries = g.rows.entries ++ sent

omit [RowStore σ] in
theorem Sends.trans {g g' g'' : Gateway (Ledgered σ)} {sent later : List Entry}
    (first : g.Sends g' sent) (second : g'.Sends g'' later) : g.Sends g'' (sent ++ later) where
  dialect := second.dialect.trans first.dialect
  entries := by rw [second.entries, first.entries, List.append_assoc]

theorem lookUp_sends (some : keys ≠ []) (g : Gateway (Ledgered σ)) :
    g.Sends (g.lookUp t keys).2 [(KeyList.read keys).entry g.dialect t none] := by
  unfold lookUp
  rw [if_neg some]
  exact ⟨rfl, rfl⟩

theorem wipe_sends (some : keys ≠ []) (g : Gateway (Ledgered σ)) :
    g.Sends (g.wipe t keys).2
      [(KeyList.delete keys).entry g.dialect t (g.wipe t keys).1.toOption] := by
  unfold wipe
  rw [if_neg some]
  exact ⟨rfl, rfl⟩

/-- Looking up keys is one query at most, and exactly one if it fails. -/
theorem lookUp_queries (t : EntityType) (keys : List EntityKey) (g : Gateway (Ledgered σ)) :
    ∃ reads : List Entry, reads.length ≤ 1 ∧ (∀ r ∈ reads, r.call.kind = .query) ∧
      g.Sends (g.lookUp t keys).2 reads ∧
      ∀ e, (g.lookUp t keys).1 = .error e → ∃ r, reads = [r] ∧ r.call.kind = .query := by
  by_cases none : keys = []
  · refine ⟨[], Nat.zero_le 1, by simp, ?_⟩
    rw [lookUp, if_pos none]
    exact ⟨⟨rfl, (List.append_nil _).symm⟩, fun e failed => by cases failed⟩
  · exact ⟨[(KeyList.read keys).entry g.dialect t .none], Nat.le_refl 1,
      by simp [KeyList.entry, KeyList.call], lookUp_sends none g, fun _ _ => ⟨_, rfl, rfl⟩⟩

end Gateway

namespace Store

open Session

variable {σ τ : Type} [RowStore σ] [TriggerHost τ]

/-! ### Type by type -/

section Loop

variable {α : Type}

/-- Work on types one after the other, up to the first that fails; what each comes to. -/
def eachType (f : String → Action σ τ α) : List String → Store σ τ →
    Except Error (List α) × Store σ τ
  | [], s => (.ok [], s)
  | name :: rest, s =>
    match f name s with
    | (.error e, t) => (.error e, t)
    | (.ok a, t) => ((eachType f rest t).1.map (a :: ·), (eachType f rest t).2)

omit [RowStore σ] [TriggerHost τ] in
theorem eachType_error {f : String → Action σ τ α} {name : String} {s t : Store σ τ} {e : Error}
    (ran : f name s = (.error e, t)) (rest : List String) :
    eachType f (name :: rest) s = (.error e, t) := by
  rw [eachType, ran]

omit [RowStore σ] [TriggerHost τ] in
theorem eachType_ok {f : String → Action σ τ α} {name : String} {s t : Store σ τ} {a : α}
    (ran : f name s = (.ok a, t)) (rest : List String) :
    eachType f (name :: rest) s = ((eachType f rest t).1.map (a :: ·), (eachType f rest t).2) := by
  rw [eachType, ran]

/-- What working on one type has done: some calls, which are noted, and nothing to other types. -/
structure Visited (name : String) (s t : Store (Ledgered σ) τ) (sent : List Entry) : Prop where
  sound : t.session.Sound
  sends : s.session.gateway.Sends t.session.gateway sent
  others : ∀ other, other ≠ name → t.session.caches.get? other = s.session.caches.get? other

section Visits

variable {name : String} {s t : Store (Ledgered σ) τ} {sent : List Entry}

omit [RowStore σ] [TriggerHost τ]

theorem Visited.of_unchanged (sound : t.session.Sound)
    (sends : s.session.gateway.Sends t.session.gateway sent)
    (unchanged : t.session.caches = s.session.caches) : Visited name s t sent :=
  ⟨sound, sends, fun _ _ => by rw [unchanged]⟩

theorem Visited.of_insert (sound : t.session.Sound)
    (sends : s.session.gateway.Sends t.session.gateway sent) {c : IdentityCache}
    (changed : t.session.caches = s.session.caches.insert name c) : Visited name s t sent :=
  ⟨sound, sends, fun _ differs => changed ▸ OrderedMap.get?_insert_of_ne _ _ differs.symm⟩

end Visits

/-- Some types were worked on in order, and the work stopped with the first that failed. `Whole` says
what a type has had that did not fail, and `Cut` what the one that failed has had. -/
structure Groupwise (Whole : String → α → List Entry → Option IdentityCache → Prop)
    (Cut : String → List Entry → Prop) (names : List String) (s s' : Store (Ledgered σ) τ)
    (o : Except Error (List α)) (done rest : List String) (answer : String → α)
    (sent : String → List Entry) : Prop where
  split : names = done ++ rest
  whole : ∀ name ∈ done, Whole name (answer name) (sent name) (s'.session.caches.get? name)
  spared : ∀ name, name ∉ done → s'.session.caches.get? name = s.session.caches.get? name
  ends : (rest = [] ∧ o = .ok (done.map answer) ∧
      s'.session.gateway.rows.entries = s.session.gateway.rows.entries ++ done.flatMap sent) ∨
    ∃ e failed later, rest = failed :: later ∧ o = .error e ∧ Cut failed (sent failed) ∧
      s'.session.gateway.rows.entries
        = s.session.gateway.rows.entries ++ done.flatMap sent ++ sent failed

namespace Groupwise

variable {Whole : String → α → List Entry → Option IdentityCache → Prop}
  {Cut : String → List Entry → Prop} {name : String} {others : List String}
  {s t u : Store (Ledgered σ) τ} {sent : List Entry}

omit [RowStore σ] [TriggerHost τ]

theorem stop [Inhabited α] (visited : Visited name s t sent) (e : Error) (cut : Cut name sent)
    (same : t.session.caches.get? name = s.session.caches.get? name) :
    Groupwise (α := α) Whole Cut (name :: others) s t (.error e) [] (name :: others)
      (fun _ => default) fun _ => sent := by
  refine ⟨rfl, by simp, fun other _ => ?_, .inr ⟨e, name, others, rfl, rfl, cut, ?_⟩⟩
  · by_cases own : other = name
    · exact own ▸ same
    · exact visited.others other own
  · rw [List.flatMap_nil, List.append_nil]
    exact visited.sends.entries

theorem next (visited : Visited name s t sent) {a : α}
    (whole : Whole name a sent (t.session.caches.get? name)) (fresh : name ∉ others)
    {o : Except Error (List α)} {done rest : List String} {answer : String → α}
    {sentLater : String → List Entry}
    (later : Groupwise Whole Cut others t u o done rest answer sentLater) :
    Groupwise Whole Cut (name :: others) s u (o.map (a :: ·)) (name :: done) rest
      (fun n => if n = name then a else answer n)
      fun n => if n = name then sent else sentLater n := by
  have absent : name ∉ done := fun listed => fresh (later.split ▸ List.mem_append_left _ listed)
  have apart : ∀ n ∈ done, n ≠ name := fun n listed own => absent (own ▸ listed)
  have answers : (name :: done).map (fun n => if n = name then a else answer n)
      = a :: done.map answer := by
    rw [List.map_cons, if_pos rfl]
    exact congrArg (a :: ·) (List.map_congr_left fun n listed => if_neg (apart n listed))
  have parts : (name :: done).flatMap (fun n => if n = name then sent else sentLater n)
      = sent ++ done.flatMap sentLater := by
    rw [List.flatMap_cons, if_pos rfl]
    exact congrArg (sent ++ ·) (List.flatMap_congr fun n listed => if_neg (apart n listed))
  refine ⟨by rw [later.split, List.cons_append], fun n listed => ?_, fun n other => ?_, ?_⟩
  · rcases List.mem_cons.1 listed with rfl | listed
    · rw [if_pos rfl, if_pos rfl, later.spared n absent]
      exact whole
    · rw [if_neg (apart n listed), if_neg (apart n listed)]
      exact later.whole n listed
  · obtain ⟨differs, other⟩ := not_or.1 (List.mem_cons.not.1 other)
    exact (later.spared n other).trans (visited.others n differs)
  · rw [answers, parts]
    rcases later.ends with ⟨none, rfl, entries⟩ | ⟨e, failed, after, stop, rfl, cut, entries⟩
    · refine .inl ⟨none, rfl, ?_⟩
      rw [entries, visited.sends.entries, List.append_assoc]
    · have differs : failed ≠ name := fun own =>
        fresh (later.split ▸ List.mem_append_right _ (by simp [stop, own]))
      refine .inr ⟨e, failed, after, stop, rfl, ?_, ?_⟩
      · rw [if_neg differs]
        exact cut
      · rw [if_neg differs, entries, visited.sends.entries, List.append_assoc _ sent]

end Groupwise

omit [RowStore σ] [TriggerHost τ] in
/-- The loop goes through the types as far as its step succeeds. -/
theorem eachType_groupwise [Inhabited α] {f : String → Action (Ledgered σ) τ α} {d : Sql.Dialect}
    {cache : String → IdentityCache}
    {Whole : String → α → List Entry → Option IdentityCache → Prop}
    {Cut : String → List Entry → Prop} {names : List String} (once : names.Nodup)
    (step : ∀ name ∈ names, ∀ s : Store (Ledgered σ) τ, s.session.Sound →
      s.session.gateway.dialect = d → s.session.caches.get? name = some (cache name) →
      ∃ sent, Visited name s (f name s).2 sent ∧
        (∀ a, (f name s).1 = .ok a → Whole name a sent ((f name s).2.session.caches.get? name)) ∧
        ∀ e, (f name s).1 = .error e → Cut name sent ∧
          (f name s).2.session.caches.get? name = s.session.caches.get? name)
    {s : Store (Ledgered σ) τ} (sound : s.session.Sound) (dialect : s.session.gateway.dialect = d)
    (registered : ∀ name ∈ names, s.session.caches.get? name = some (cache name)) :
    ∃ done rest answer sent, Groupwise Whole Cut names s (eachType f names s).2
      (eachType f names s).1 done rest answer sent := by
  induction names generalizing s with
  | nil =>
    exact ⟨[], [], fun _ => default, fun _ => [], rfl, by simp, fun _ _ => rfl,
      .inl ⟨rfl, rfl, (List.append_nil _).symm⟩⟩
  | cons name others ih =>
    obtain ⟨fresh, once⟩ := List.nodup_cons.1 once
    obtain ⟨sent, visited, whole, cut⟩ :=
      step name List.mem_cons_self s sound dialect (registered name List.mem_cons_self)
    rcases ran : f name s with ⟨e | a, t⟩
    · rw [ran] at visited cut
      obtain ⟨part, same⟩ := cut e rfl
      rw [eachType_error ran]
      exact ⟨_, _, _, _, .stop visited e part same⟩
    · rw [ran] at visited whole
      -- the other types are as they were, so what the step asks for still holds of them
      have registeredLater : ∀ other ∈ others,
          t.session.caches.get? other = some (cache other) := by
        intro other listed
        rw [visited.others other fun own => fresh (own ▸ listed)]
        exact registered other (List.mem_cons_of_mem _ listed)
      obtain ⟨done, rest, answer, sentLater, later⟩ :=
        ih once (fun n listed => step n (List.mem_cons_of_mem _ listed)) visited.sound
          (visited.sends.dialect.trans dialect) registeredLater
      rw [eachType_ok ran]
      exact ⟨_, _, _, _, later.next visited (whole a rfl) fresh⟩

end Loop

/-! ### One type -/

section Step

variable {s : Store (Ledgered σ) τ} {typeName : String} {c : IdentityCache}
  {keys : List EntityKey}

/-- Deleting some keys is one statement over them, after one query at most, and leaves none of them.
It fails with one of the two, and then nothing has changed. -/
theorem deleteKeys_visited (sound : s.session.Sound)
    (cached : s.session.caches.get? typeName = some c) (some : keys ≠ []) :
    let deletion := (KeyList.delete (distinct keys)).entry s.session.gateway.dialect c.entityType
    let after := deleteKeys typeName keys s
    ∃ sent : List Entry, Visited typeName s after.2 sent ∧
      (∀ n, after.1 = .ok n → (deletion n).Ends sent ∧
        ∃ c', after.2.session.caches.get? typeName = .some c' ∧ ∀ key ∈ keys, c'.get? key = none) ∧
      ∀ e, after.1 = .error e →
        ((deletion none).Ends sent ∨ ∃ r, sent = [r] ∧ r.call.kind = .query) ∧
        after.2.session.caches.get? typeName = s.session.caches.get? typeName := by
  intro deletion after
  have once : distinct keys ≠ [] := distinct_ne_nil some
  have later : after.2.session.Sound := (ask_sound sound (.deleteKeys typeName keys)).1
  obtain ⟨outcome, session, -⟩ := deleteKeys_session typeName keys s
  have run := Session.deleteKeys_run sound cached (s.dispatcher.hasTriggers typeName) keys
  obtain ⟨reads, few, queries, asks, failing⟩ := Gateway.lookUp_queries c.entityType
    (c.unknown (s.dispatcher.hasTriggers typeName) keys) s.session.gateway
  rcases asked : s.session.gateway.lookUp c.entityType
    (c.unknown (s.dispatcher.hasTriggers typeName) keys) with ⟨e | readBack, g⟩
  · -- the rows could not be read back, so nothing is deleted
    simp only [asked] at run asks failing
    rw [run] at outcome session
    refine ⟨reads, .of_unchanged later (session ▸ asks) (session ▸ rfl), ?_,
      fun _ _ => ⟨.inr (failing e rfl), session ▸ rfl⟩⟩
    intro n succeeded
    cases outcome.symm.trans succeeded
  have wipes := Gateway.wipe_sends (t := c.entityType) once g
  simp only [asked] at asks
  rw [asks.dialect] at wipes
  rcases answered : g.wipe c.entityType (distinct keys) with ⟨e | n, g'⟩
  · simp only [asked, answered] at run wipes
    rw [run] at outcome session
    refine ⟨reads ++ [deletion none], .of_unchanged later (session ▸ asks.trans wipes)
      (session ▸ rfl), ?_, fun _ _ => ⟨.inl ⟨reads, few, queries, rfl⟩, session ▸ rfl⟩⟩
    intro n succeeded
    cases outcome.symm.trans succeeded
  · simp only [asked, answered] at run wipes
    rw [run] at outcome session
    have changed : after.2.session.caches
        = s.session.caches.insert typeName (IdentityCache.removeAll (distinct keys) c).2 :=
      session ▸ rfl
    refine ⟨reads ++ [deletion n], .of_insert later (session ▸ asks.trans wipes) changed, ?_, ?_⟩
    · intro m succeeded
      cases outcome.symm.trans succeeded
      refine ⟨⟨reads, few, queries, rfl⟩, (IdentityCache.removeAll (distinct keys) c).2,
        changed ▸ OrderedMap.get?_insert_self _ _ _, fun key listed => ?_⟩
      rw [IdentityCache.get?_removeAll, if_pos (mem_distinct.2 listed)]
    · intro e failed
      cases outcome.symm.trans failed

/-- Refreshing some keys is one query over them, and when it fails nothing has changed. -/
theorem refreshKeys_visited (sound : s.session.Sound)
    (cached : s.session.caches.get? typeName = some c) (some : keys ≠ []) :
    let after := refreshKeys typeName keys s
    Visited typeName s after.2
        [(KeyList.read (distinct keys)).entry s.session.gateway.dialect c.entityType none] ∧
      ∀ e, after.1 = .error e →
        after.2.session.caches.get? typeName = s.session.caches.get? typeName := by
  intro after
  have once : distinct keys ≠ [] := distinct_ne_nil some
  have later : after.2.session.Sound := (ask_sound sound (.refreshKeys typeName keys)).1
  have outcome : after.1
    = (Session.getSome typeName keys .forceRefresh s.session).1 := rfl
  have session : after.2.session = { (Session.getSome typeName keys .forceRefresh s.session).2 with
      outbox := [] } := ask_session (.refreshKeys typeName keys) s
  have run := Session.getSome_run sound cached keys .forceRefresh
  have wanted : c.wanted keys .forceRefresh = distinct keys := rfl
  rw [wanted] at run
  have asks := Gateway.lookUp_sends (t := c.entityType) once s.session.gateway
  cases merged : (s.session.gateway.lookUp c.entityType (distinct keys)).1.bind
      (c.mergeFetched (distinct keys)) with
  | error e =>
    simp only [merged] at run
    rw [run] at session
    exact ⟨.of_unchanged later (session ▸ asks) (session ▸ rfl), fun _ _ => session ▸ rfl⟩
  | ok result =>
    obtain ⟨⟨handles, events⟩, c'⟩ := result
    simp only [merged] at run
    rw [run] at outcome session
    have changed : after.2.session.caches = s.session.caches.insert typeName c' := session ▸ rfl
    refine ⟨.of_insert later (session ▸ asks) changed, fun e failed => ?_⟩
    cases outcome.symm.trans failed

end Step

/-! ### Instances -/

theorem deleteGroups_eachType (members : String → List Handle) (names : List String)
    (s : Store σ τ) :
    let deleted := eachType (fun name => deleteKeys name ((members name).map (·.key))) names s
    deleteGroups (names.map fun name => (name, members name)) s
      = (deleted.1.map List.sum, deleted.2) := by
  induction names generalizing s with
  | nil => rfl
  | cons name rest ih =>
    rw [List.map_cons, deleteGroups]
    dsimp only
    rcases ran : deleteKeys name ((members name).map (·.key)) s with ⟨e | n, t⟩
    · rw [bind_of_error ran, eachType_error ran]
      rfl
    · rw [bind_of_ok ran, eachType_ok ran]
      have later := ih t
      dsimp only at later
      rcases others : eachType (fun name => deleteKeys name ((members name).map (·.key))) rest t with
        ⟨e | counts, u⟩
      · simp only [others] at later ⊢
        exact bind_of_error later
      · simp only [others] at later ⊢
        exact bind_of_ok later

theorem refreshGroups_eachType (members : String → List Handle) (names : List String)
    (s : Store σ τ) :
    let refreshed := eachType (fun name => refreshKeys name ((members name).map (·.key))) names s
    refreshGroups (names.map fun name => (name, members name)) s
      = (refreshed.1.map fun _ => (), refreshed.2) := by
  induction names generalizing s with
  | nil => rfl
  | cons name rest ih =>
    rw [List.map_cons, refreshGroups]
    dsimp only
    rcases ran : refreshKeys name ((members name).map (·.key)) s with ⟨e | found, t⟩
    · rw [bind_of_error ran, eachType_error ran]
      rfl
    · rw [bind_of_ok ran, eachType_ok ran, ih t]
      dsimp only
      cases (eachType (fun name => refreshKeys name ((members name).map (·.key))) rest t).1 <;> rfl

section Handles

variable {s : Store (Ledgered σ) τ} {cache : String → IdentityCache} {handles : List Handle}

/-- The keys of the instances of a type. -/
def keysOfType (handles : List Handle) (typeName : String) : List EntityKey :=
  (handles.filter (·.typeName = typeName)).map (·.key)

omit [RowStore σ] [TriggerHost τ] in
theorem key_mem {h : Handle} (listed : h ∈ handles) : h.key ∈ keysOfType handles h.typeName :=
  List.mem_map_of_mem (List.mem_filter.2 ⟨listed, by simp⟩)

omit [RowStore σ] [TriggerHost τ] in
/-- The types that the loop goes through are registered, and each has keys. -/
theorem of_mem_types (registered : ∀ h ∈ handles,
      s.session.caches.get? h.typeName = some (cache h.typeName))
    {name : String} (listed : name ∈ distinct (handles.map (·.typeName))) :
    s.session.caches.get? name = some (cache name) ∧ keysOfType handles name ≠ [] := by
  obtain ⟨h, here, rfl⟩ := List.mem_map.1 (mem_distinct.1 listed)
  exact ⟨registered h here, List.ne_nil_of_mem (key_mem here)⟩

theorem deleteInstances_groupwise (sound : s.session.Sound)
    (registered : ∀ h ∈ handles, s.session.caches.get? h.typeName = some (cache h.typeName)) :
    let deletion (name : String) := (KeyList.delete (distinct (keysOfType handles name))).entry
      s.session.gateway.dialect (cache name).entityType
    ∃ o, (deleteInstances handles s).1 = o.map List.sum ∧ ∃ done rest count sent,
      Groupwise (fun name n sent left => (deletion name (some n)).Ends sent ∧
          ∃ c, left = some c ∧ ∀ key ∈ keysOfType handles name, c.get? key = none)
        (fun name sent => (deletion name none).Ends sent ∨
          ∃ r, sent = [r] ∧ r.call.kind = .query)
        (distinct (handles.map (·.typeName))) s (deleteInstances handles s).2 o done rest count
        sent := by
  intro deletion
  rw [show deleteInstances handles s = _ from
    deleteGroups_eachType (fun name => handles.filter (·.typeName = name)) _ s]
  refine ⟨_, rfl, eachType_groupwise (nodup_distinct _) ?_ sound rfl
    fun name listed => (of_mem_types registered listed).1⟩
  intro name listed t sound dialect cached
  have visited := deleteKeys_visited sound cached (of_mem_types registered listed).2
  rw [dialect] at visited
  exact visited

theorem refreshInstances_groupwise (sound : s.session.Sound)
    (registered : ∀ h ∈ handles, s.session.caches.get? h.typeName = some (cache h.typeName)) :
    let query (name : String) := (KeyList.read (distinct (keysOfType handles name))).entry
      s.session.gateway.dialect (cache name).entityType none
    ∃ o, (refreshInstances handles s).1 = o.map (fun _ => ()) ∧ ∃ done rest found sent,
      Groupwise (α := List Handle) (fun name _ sent _ => sent = [query name])
        (fun name sent => sent = [query name])
        (distinct (handles.map (·.typeName))) s (refreshInstances handles s).2 o done rest found
        sent := by
  intro query
  rw [show refreshInstances handles s = _ from
    refreshGroups_eachType (fun name => handles.filter (·.typeName = name)) _ s]
  refine ⟨_, rfl, eachType_groupwise (nodup_distinct _) ?_ sound rfl
    fun name listed => (of_mem_types registered listed).1⟩
  intro name listed t sound dialect cached
  obtain ⟨visited, same⟩ := refreshKeys_visited sound cached (of_mem_types registered listed).2
  rw [dialect] at visited
  exact ⟨_, visited, fun _ _ => rfl, fun e failed => ⟨rfl, same e failed⟩⟩

/-- Instances of registered types are deleted or refreshed type by type, in the order in which the
types are first seen, until there are no more types or one of them fails. Each type that has been
deleted has had one deletion, of the keys of its instances, each once in first-seen order, after one
query at most; none of its instances is cached any more, and the result is the sum of what the row
store has answered. A deletion fails with one of these calls, and not by itself. Each type that has
been refreshed has had one query, of the same keys. Nothing was sent for the types after the one that
failed, and their caches are as they were. -/
theorem instances_groupwise (reachable : s.Reachable)
    (registered : ∀ h ∈ handles, s.session.caches.get? h.typeName = some (cache h.typeName)) :
    let types := distinct (handles.map (·.typeName))
    let keys (name : String) := distinct (keysOfType handles name)
    let ledger (t : Store (Ledgered σ) τ) := t.session.gateway.rows.entries
    let deletion (name : String) :=
      (KeyList.delete (keys name)).entry s.session.gateway.dialect (cache name).entityType
    let query (name : String) :=
      (KeyList.read (keys name)).entry s.session.gateway.dialect (cache name).entityType none
    let deleted := deleteInstances handles s
    let refreshed := refreshInstances handles s
    (∃ (done rest : List String) (count : String → Nat) (sent : String → List Entry),
      types = done ++ rest ∧
      (∀ name ∈ done, (deletion name (some (count name))).Ends (sent name)) ∧
      (∀ h ∈ handles, h.typeName ∈ done →
        ∃ c, deleted.2.session.caches.get? h.typeName = some c ∧ c.get? h.key = none) ∧
      (∀ name, name ∉ done →
        deleted.2.session.caches.get? name = s.session.caches.get? name) ∧
      ((rest = [] ∧ deleted.1 = .ok (done.map count).sum ∧
          ledger deleted.2 = ledger s ++ done.flatMap sent) ∨
        ∃ e failed later, rest = failed :: later ∧ deleted.1 = .error e ∧
          ((deletion failed none).Ends (sent failed) ∨
            ∃ r, sent failed = [r] ∧ r.call.kind = .query) ∧
          ledger deleted.2 = ledger s ++ done.flatMap sent ++ sent failed)) ∧
    ∃ done rest : List String,
      types = done ++ rest ∧
      (∀ name, name ∉ done →
        refreshed.2.session.caches.get? name = s.session.caches.get? name) ∧
      ((rest = [] ∧ refreshed.1 = .ok () ∧ ledger refreshed.2 = ledger s ++ done.map query) ∨
        ∃ e failed later, rest = failed :: later ∧ refreshed.1 = .error e ∧
          ledger refreshed.2 = ledger s ++ done.map query ++ [query failed]) := by
  intro types keys ledger deletion query deleted refreshed
  refine ⟨?deletion, ?refresh⟩
  case deletion =>
    obtain ⟨o, outcome, done, rest, count, sent, groupwise⟩ :=
      deleteInstances_groupwise reachable.sound registered
    refine ⟨done, rest, count, sent, groupwise.split, fun name listed =>
      (groupwise.whole name listed).1, fun h here listed => ?_, groupwise.spared, ?_⟩
    · obtain ⟨-, c, left, gone⟩ := groupwise.whole h.typeName listed
      exact ⟨c, left, gone h.key (key_mem here)⟩
    · rcases groupwise.ends with ⟨all, rfl, entries⟩ | ⟨e, failed, later, stop, rfl, cut, entries⟩
      · exact .inl ⟨all, outcome, entries⟩
      · exact .inr ⟨e, failed, later, stop, outcome, cut, entries⟩
  case refresh =>
    obtain ⟨o, outcome, done, rest, found, sent, groupwise⟩ :=
      refreshInstances_groupwise reachable.sound registered
    have queries : done.flatMap sent = done.map query := by
      rw [List.flatMap_congr groupwise.whole]
      exact List.flatMap_pure_eq_map query done
    refine ⟨done, rest, groupwise.split, groupwise.spared, ?_⟩
    rcases groupwise.ends with ⟨all, rfl, entries⟩ | ⟨e, failed, later, stop, rfl, cut, entries⟩
    · exact .inl ⟨all, outcome, queries ▸ entries⟩
    · exact .inr ⟨e, failed, later, stop, outcome, queries ▸ cut ▸ entries⟩

end Handles

end Store

namespace Sample

/-- Two gauges are cached and no dial. The next replies are to two deletions. -/
def shelved : Store (Ledgered Script) ScriptedHost :=
  Store.after [.request (.register gauge), .request (.register dial),
      .request (.getSome "Gauge" [.int 1, .int 2] .forceRefresh)] {
    session := {
      settings := { createTables := false }
      gateway := {
        dialect := Sql.Dialect.ansi
        rows := ⟨{ replies := [.rows [row 1 5, row 2 6], .count 2, .count 1] }, []⟩ } }
    host := {} }

theorem reachable_shelved : shelved.Reachable := ⟨Sql.Dialect.ansi, { createTables := false },
  ⟨{ replies := [.rows [row 1 5, row 2 6], .count 2, .count 1] }, []⟩, {}, _, _, rfl, rfl⟩

end Sample

open Sample in
/-- Of two gauges, one is listed twice, around a dial that is not cached. There is one deletion for
the gauges and one for the dial. The reply to the query for the gauges cannot be read, so the dial is
not asked for. -/
theorem Store.instances_groupwise_gauges :
    let handles : List Handle :=
      [⟨"Gauge", .int 2, 1⟩, ⟨"Dial", .int 7, 4⟩, ⟨"Gauge", .int 1, 0⟩, ⟨"Gauge", .int 2, 1⟩]
    let d := shelved.session.gateway.dialect
    let deleted := deleteInstances handles shelved
    let refreshed := refreshInstances handles shelved
    let gauges : List EntityKey := [.int 2, .int 1]
    let sentBefore := shelved.session.gateway.rows.entries
    deleted.1 = .ok 3 ∧
      (∃ n m sent sentLater, n + m = 3 ∧
        deleted.2.session.gateway.rows.entries = sentBefore ++ (sent ++ sentLater) ∧
        ((KeyList.delete gauges).entry d gauge (some n)).Ends sent ∧
        ((KeyList.delete [.int 7]).entry d dial (some m)).Ends sentLater) ∧
      (∃ c, deleted.2.session.caches.get? "Gauge" = some c ∧ c.get? (.int 2) = none) ∧
      refreshed.1 = .error (.backend "script" "wrong kind of reply") ∧
      refreshed.2.session.gateway.rows.entries
        = sentBefore ++ [(KeyList.read gauges).entry d gauge none] ∧
      refreshed.2.session.caches.get? "Dial" = shelved.session.caches.get? "Dial" := by
  intro handles d deleted refreshed gauges sentBefore
  have seen (name : String) (t : EntityType)
      (same : (shelved.session.caches.get? name).map (·.entityType) = some t) :=
    Option.map_eq_some_iff.1 same
  obtain ⟨c, cachedGauges, ofGauges⟩ := seen "Gauge" gauge (by decide +kernel)
  obtain ⟨c', cachedDials, ofDials⟩ := seen "Dial" dial (by decide +kernel)
  let cache (name : String) : IdentityCache := if name = "Gauge" then c else c'
  have registered : ∀ h ∈ handles,
      shelved.session.caches.get? h.typeName = some (cache h.typeName) := by
    simp [handles, cache, cachedGauges, cachedDials]
  have ofTypes : (cache "Gauge").entityType = gauge ∧ (cache "Dial").entityType = dial :=
    ⟨ofGauges, ofDials⟩
  have types : distinct (handles.map (·.typeName)) = ["Gauge", "Dial"] := by decide +kernel
  have keys : distinct (keysOfType handles "Gauge") = gauges ∧
      distinct (keysOfType handles "Dial") = [.int 7] := by decide +kernel
  have succeeds : deleted.1 = .ok 3 := by decide +kernel
  have fails : refreshed.1 = .error (.backend "script" "wrong kind of reply") := by decide +kernel
  -- only one call has been noted, so it was the first type that failed
  have noted : refreshed.2.session.gateway.rows.entries.length = sentBefore.length + 1 := by
    decide +kernel
  obtain ⟨⟨done, rest, count, sent, split, whole, gone, -, ends⟩, done', rest', split', spared,
    ends'⟩ := instances_groupwise reachable_shelved registered
  rw [types] at split split'
  obtain ⟨rfl, total, entries⟩ := ends.resolve_right fun ⟨e, _, _, _, failed, _⟩ => by
    cases succeeds.symm.trans failed
  obtain ⟨e, failed, later, stop, -, queries⟩ := ends'.resolve_left fun ⟨_, refreshes, _⟩ => by
    cases fails.symm.trans refreshes
  obtain rfl : ["Gauge", "Dial"] = done := split.trans (List.append_nil done)
  obtain rfl : [] = done' := by
    have counted := (congrArg List.length queries).symm.trans noted
    simpa [sentBefore] using counted
  obtain rfl : "Gauge" = failed := (List.cons.inj (split'.trans stop)).1
  have sum : count "Gauge" + count "Dial" = 3 := (Except.ok.inj (total.symm.trans succeeds) :)
  have both : [("Gauge" : String), "Dial"].flatMap sent = sent "Gauge" ++ sent "Dial" := by simp
  have ofGauge := whole "Gauge" (by simp)
  have ofDial := whole "Dial" (by simp)
  dsimp only at ofGauge ofDial
  simp only [List.map_nil, List.append_nil] at queries
  rw [keys.1, ofTypes.1] at ofGauge queries
  rw [keys.2, ofTypes.2] at ofDial
  exact ⟨succeeds, ⟨_, _, _, _, sum, both ▸ entries, ofGauge, ofDial⟩,
    gone ⟨"Gauge", .int 2, 1⟩ (by simp [handles]) (by simp), fails, queries,
    spared "Dial" (by simp)⟩

end IdentityMap
