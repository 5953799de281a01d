import IdentityMap.Proofs.Session.Refresh
import IdentityMap.Proofs.Store.Typewise
/-!
# Refreshing in any order

An executor may complete the tasks of a refresh in any order, or lose some of them. The refresh of a
type reads and writes the cache of this type alone. So with a row store that answers a query always
alike, a row of refreshes makes of every type what its refresh alone would have made of it
(`Store.refreshTypes_apart`), and it does not matter in which order the types take their turns
(`Store.refresh_any_schedule`). Triggers are the one place where the order can show: a trigger that
registers another one for all events does so before or after the events of another type. What is
counted of triggers is compared for those that keep the types apart.
-/

namespace IdentityMap

variable {σ τ V : Type}

namespace Store

open RowStore (Queried Steady)
open TriggerHost (Typewise FailsTypewise CountsTypewise)

/-! ### Schedules -/

/-- The types whose tasks an executor completes, in the order of its schedule. -/
def turns (schedule : List Nat) (s : Store σ τ) : List String :=
  schedule.filterMap (s.session.caches.keys[·]?)

variable {s : Store σ τ}

theorem filterMap_range {α : Type} (l : List α) : (List.range l.length).filterMap (l[·]?) = l := by
  induction l with
  | nil => rfl
  | cons a rest ih =>
    rw [List.length_cons, List.range_succ_eq_map, List.filterMap_cons, List.filterMap_map]
    simpa using ih

/-- Where every task is completed once, every type has its turn. -/
theorem perm_turns {schedule : List Nat}
    (all : schedule.Perm (List.range s.session.caches.keys.length)) :
    (s.turns schedule).Perm s.session.caches.keys :=
  (all.filterMap _).trans (.of_eq (filterMap_range _))

/-- Where a task is left, there are fewer turns than types. -/
theorem length_turns_lt {schedule : List Nat} (once : schedule.Nodup) {i : Nat}
    (task : i < s.session.caches.keys.length) (left : i ∉ schedule) :
    (s.turns schedule).length < s.session.caches.keys.length := by
  have types := OrderedMap.nodup_keys s.session.caches
  have fresh : s.session.caches.keys[i] ∉ s.turns schedule := by
    intro listed
    obtain ⟨j, scheduled, found⟩ := List.mem_filterMap.1 listed
    have here := List.getElem?_eq_getElem task
    exact left ((List.getElem?_inj task types).1 (here.trans found.symm) ▸ scheduled)
  have all : s.session.caches.keys[i] :: s.turns schedule ⊆ s.session.caches.keys := by
    refine List.cons_subset.2 ⟨List.getElem_mem task, fun n listed => ?_⟩
    obtain ⟨j, -, found⟩ := List.mem_filterMap.1 listed
    exact List.mem_of_getElem? found
  have distinct : (s.session.caches.keys[i] :: s.turns schedule).Nodup :=
    List.nodup_cons.2 ⟨fresh, Operation.nodup_scheduled once types⟩
  exact distinct.length_le_of_subset all

theorem firstError_eq_ok {outcomes : List (Except Error Unit)} :
    firstError outcomes = .ok () ↔ ∀ o ∈ outcomes, o = .ok () := by
  induction outcomes with
  | nil => simp [firstError]
  | cons o rest ih => cases o <;> simp [firstError, ih]

/-! ### Telling and the session -/

section Told

variable [TriggerHost τ] {u : Session σ}

/-- Of a session, the telling of an event looks at nothing but which types are registered. -/
theorem tell_withSession (same : ∀ n, u.caches.contains n = s.session.caches.contains n)
    (e : Event) :
    ({ s with session := u } : Store σ τ).tell e = { s.tell e with session := u } := by
  have registers : ({ s with session := u } : Store σ τ).register = s.register := by
    funext d r
    cases r with
    | global t => rfl
    | forType n t =>
      unfold register
      dsimp only
      rw [same]
  unfold tell
  dsimp only
  rw [registers]

theorem foldl_tell_withSession (events : List Event)
    (same : ∀ n, u.caches.contains n = s.session.caches.contains n) :
    events.foldl tell ({ s with session := u } : Store σ τ)
      = { events.foldl tell s with session := u } := by
  induction events generalizing s with
  | nil => rfl
  | cons e rest ih =>
    rw [List.foldl_cons, tell_withSession same]
    exact ih (s := s.tell e) same

end Told

/-! ### One type after the other -/

variable [RowStore σ] [TriggerHost τ] {answers : QueryAnswers}

/-- A refresh of one type, as triggers are told of it. -/
theorem ask_refreshType (sound : s.session.Sound) (n : String) :
    ∃ rows, Queried s.session.gateway.rows rows ∧
      let r := s.session.refreshed s.session.answersNow n
      (perform (Session.refreshType n) s).1 = r.outcome ∧
      s.dispatched (.refreshType n) = s.session.outbox ++ r.events ∧
      (s.ask (.refreshType n)).2.session = { s.session.receive n r rows with outbox := [] } := by
  obtain ⟨rows, queried, ran⟩ := Session.refreshType_eq sound n
  refine ⟨rows, queried, ?_, ?_, ?_⟩
  · exact congrArg Prod.fst ran
  · exact congrArg (·.2.outbox) ran
  · rw [ask_session]
    show { (Session.refreshType n s.session).2 with outbox := [] } = _
    rw [ran]

/-- The events that refreshing types in a row makes the store tell its triggers. -/
def refreshTold : List String → Store σ τ → List Event
  | [], _ => []
  | n :: rest, s =>
    s.dispatched (.refreshType n) ++ refreshTold rest (s.ask (.refreshType n)).2

theorem ask_refreshType_contains (sound : s.session.Sound) (n m : String) :
    (s.ask (.refreshType n)).2.session.caches.contains m = s.session.caches.contains m := by
  obtain ⟨rows, -, -, -, after⟩ := ask_refreshType sound n
  rw [after]
  exact Session.contains_refreshed s.session.answersNow n m s.session

/-- What becomes of a store besides its session is the telling of the events, in their order. -/
theorem refreshTypes_told (sound : s.session.Sound) (names : List String) :
    (refreshTypes names s).2 = { (refreshTold names s).foldl tell s with
      session := (refreshTypes names s).2.session } := by
  induction names generalizing s with
  | nil => rfl
  | cons n rest ih =>
    have first : (s.ask (.refreshType n)).2 = { (s.dispatched (.refreshType n)).foldl tell s with
        session := (s.ask (.refreshType n)).2.session } := by
      rw [← foldl_tell_withSession _ (ask_refreshType_contains sound n), ask_session, ask_eq]
    have resumed (events : List Event) : events.foldl tell (s.ask (.refreshType n)).2
        = { events.foldl tell ((s.dispatched (.refreshType n)).foldl tell s) with
            session := (s.ask (.refreshType n)).2.session } := by
      refine (congrArg (events.foldl tell ·) first).trans (foldl_tell_withSession events ?_)
      rw [foldl_tell_session]
      exact ask_refreshType_contains sound n
    have later := ih (ask_sound sound (.refreshType n)).1
    rw [resumed] at later
    rw [refreshTypes_cons, refreshTold, List.foldl_append]
    exact later

theorem refreshTypes_fired (sound : s.session.Sound) (names : List String) :
    (refreshTypes names s).2.fired = s.fired + reported (·.fired) (refreshTold names s) s := by
  rw [refreshTypes_told sound]
  exact foldl_tell_fired _ s

theorem refreshTypes_failed (sound : s.session.Sound) (names : List String) :
    (refreshTypes names s).2.failed
      = s.failed + reported (·.failures.length) (refreshTold names s) s := by
  rw [refreshTypes_told sound]
  exact foldl_tell_failed _ s

/-! ### Every type as if it were alone -/

/-- Every type has come to what its refresh alone comes to. -/
structure Apart (answers : QueryAnswers) (names : List String) (s : Store σ τ) : Prop where
  outcomes : (refreshTypes names s).1 = (names.map (s.session.refreshed answers)).map (·.outcome)
  told : refreshTold names s = (names.map (s.session.refreshed answers)).flatMap (·.events)
  caches : ∀ n, (refreshTypes names s).2.session.caches.get? n =
    if n ∈ names then (s.session.refreshed answers n).cache?.or (s.session.caches.get? n)
    else s.session.caches.get? n
  roundTrips : (refreshTypes names s).2.session.gateway.roundTrips = s.session.gateway.roundTrips
    + ((names.map (s.session.refreshed answers)).map (·.calls)).sum
  hits : (refreshTypes names s).2.session.hits = s.session.hits
  misses : (refreshTypes names s).2.session.misses = s.session.misses

theorem refreshTypes_apart (sound : s.session.Sound) (delivered : s.session.outbox = [])
    (steady : Steady answers s.session.gateway.rows) {names : List String} (once : names.Nodup) :
    Apart answers names s := by
  induction names generalizing s with
  | nil => exact ⟨rfl, rfl, fun n => by simp [refreshTypes], by simp [refreshTypes], rfl, rfl⟩
  | cons n rest ih =>
    obtain ⟨fresh, once⟩ := List.nodup_cons.1 once
    obtain ⟨rows, queried, outcome, told, after⟩ := ask_refreshType sound n
    rw [Session.answersNow_of_steady steady] at outcome told after
    have later : Apart answers rest (s.ask (.refreshType n)).2 :=
      ih (ask_sound sound _).1 (by rw [after]) (by rw [after]; exact steady.queried queried) once
    have spared {m : String} (differ : n ≠ m) :
        (s.ask (.refreshType n)).2.session.refreshed answers m
          = s.session.refreshed answers m := by
      rw [after]
      exact Session.refreshed_receive differ
    have others : rest.map ((s.ask (.refreshType n)).2.session.refreshed answers)
        = rest.map (s.session.refreshed answers) := by
      refine List.map_congr_left fun m listed => spared ?_
      rintro rfl
      exact fresh listed
    have caches : (s.ask (.refreshType n)).2.session.caches
        = (s.session.refreshed answers n).into n s.session.caches := by
      rw [after]
      rfl
    refine ⟨?outcomes, ?told, ?caches, ?roundTrips, ?hits, ?misses⟩
    case outcomes =>
      show (perform (Session.refreshType n) s).1
        :: (refreshTypes rest (s.ask (.refreshType n)).2).1 = _
      rw [outcome, later.outcomes, others]
      rfl
    case told =>
      rw [refreshTold, told, delivered, later.told, others]
      rfl
    case caches =>
      intro m
      rw [refreshTypes_cons, later.caches, caches]
      by_cases own : n = m
      · subst own
        rw [if_neg fresh, if_pos List.mem_cons_self, Session.get?_into_self]
      · rw [spared own, Session.get?_into_of_ne own]
        simp [Ne.symm own]
    case roundTrips =>
      rw [refreshTypes_cons, later.roundTrips, others, after]
      simp [Session.receive, Nat.add_assoc]
    case hits =>
      rw [refreshTypes_cons, later.hits, after]
      rfl
    case misses =>
      rw [refreshTypes_cons, later.misses, after]
      rfl

/-! ### How a refresh ends -/

theorem length_refreshTypes (names : List String) (s : Store σ τ) :
    (refreshTypes names s).1.length = names.length := by
  induction names generalizing s with
  | nil => rfl
  | cons n rest ih => exact congrArg (· + 1) (ih _)

theorem refreshScheduled_eq_ok {schedule : List Nat} :
    (refreshScheduled schedule s).1 = .ok () ↔
      (∀ o ∈ (refreshTypes (s.turns schedule) s).1, o = .ok ()) ∧
        s.session.caches.keys.length ≤ (s.turns schedule).length := by
  have outcome : (refreshScheduled schedule s).1
      = (firstError (refreshTypes (s.turns schedule) s).1).bind fun _ =>
        let missing := s.session.caches.keys.length - (refreshTypes (s.turns schedule) s).1.length
        if missing = 0 then .ok ()
        else
          .error (.backend "refresh"
            (toString missing ++ " refresh task(s) did not complete")) := rfl
  rw [outcome, length_refreshTypes, ← firstError_eq_ok]
  cases firstError (refreshTypes (s.turns schedule) s).1 with
  | error e => simp [Except.bind]
  | ok _ =>
    simp only [Except.bind, true_and]
    split <;> simp <;> omega

theorem refresh_eq_ok :
    (refresh s).1 = .ok () ↔ ∀ o ∈ (refreshTypes s.session.caches.keys s).1, o = .ok () :=
  firstError_eq_ok

/-! ### Every order comes to the same -/

/-- The store `s'` is what `s` becomes when every type is refreshed and comes to what it comes to if
it is refreshed alone. Triggers were told the events in `told`. -/
structure RefreshedEach (s s' : Store σ τ) (told : List Event) : Prop where
  caches : ∀ n, s'.session.caches.get? n = (s.ask (.refreshType n)).2.session.caches.get? n
  events : ∀ n, told.filter (·.typeName = n) = s.dispatched (.refreshType n)
  telling : s' = { told.foldl tell s with session := s'.session }
  hits : s'.stats.hits = s.stats.hits
  misses : s'.stats.misses = s.stats.misses
  roundTrips : s'.stats.roundTrips = s.stats.roundTrips + (s.session.caches.keys.map fun n =>
    (s.ask (.refreshType n)).2.stats.roundTrips - s.stats.roundTrips).sum

namespace RefreshedEach

variable {s₁ s₂ : Store σ τ} {told₁ told₂ : List Event}

theorem caches_eq (first : RefreshedEach s s₁ told₁) (second : RefreshedEach s s₂ told₂) :
    s₂.session.caches = s₁.session.caches :=
  OrderedMap.ext fun n => (second.caches n).trans (first.caches n).symm

/-- What is counted is the same, triggers aside. -/
theorem stats_eq (first : RefreshedEach s s₁ told₁) (second : RefreshedEach s s₂ told₂) :
    s₂.stats = { s₁.stats with fired := s₂.stats.fired, failed := s₂.stats.failed } := by
  have hits := second.hits.trans first.hits.symm
  have misses := second.misses.trans first.misses.symm
  have roundTrips := second.roundTrips.trans first.roundTrips.symm
  unfold stats at hits misses roundTrips ⊢
  rw [StoreStats.mk.injEq]
  exact ⟨hits, misses, roundTrips, rfl, rfl⟩

end RefreshedEach

section Steady

variable (sound : s.session.Sound) (delivered : s.session.outbox = [])
  (steady : Steady answers s.session.gateway.rows)
include sound delivered steady

/-- What is seen of the refresh of one type. -/
theorem ask_refreshType_steady (n : String) :
    s.dispatched (.refreshType n) = (s.session.refreshed answers n).events ∧
      (s.ask (.refreshType n)).2.session.caches.get? n
        = (s.session.refreshed answers n).cache?.or (s.session.caches.get? n) ∧
      (s.ask (.refreshType n)).2.stats.roundTrips
        = s.stats.roundTrips + (s.session.refreshed answers n).calls := by
  obtain ⟨rows, -, -, told, after⟩ := ask_refreshType sound n
  rw [Session.answersNow_of_steady steady] at told after
  refine ⟨by rw [told, delivered]; rfl, ?_, ?_⟩
  · rw [after]
    exact Session.get?_into_self _ _ _
  · unfold stats
    rw [after]
    rfl

theorem refreshTypes_each {names : List String} (all : names.Perm s.session.caches.keys) :
    RefreshedEach s (refreshTypes names s).2 (refreshTold names s) := by
  have once : names.Nodup := all.nodup_iff.2 (OrderedMap.nodup_keys s.session.caches)
  have apart := refreshTypes_apart sound delivered steady once
  have own (n : String) : ∀ e ∈ (s.session.refreshed answers n).events, e.typeName = n :=
    Session.refreshed_typeName sound
  have unregistered {n : String} (left : n ∉ names) :
      s.session.refreshed answers n = { outcome := .error (.unregisteredType n) } := by
    cases cached : s.session.caches.get? n with
    | some c => exact absurd (all.mem_iff.2 (OrderedMap.mem_keys_iff.2 ⟨c, cached⟩)) left
    | none =>
      unfold Session.refreshed
      rw [cached]
  refine ⟨fun n => ?caches, fun n => ?events, refreshTypes_told sound names, apart.hits,
    apart.misses, ?roundTrips⟩
  case caches =>
    rw [apart.caches, (ask_refreshType_steady sound delivered steady n).2.1]
    split
    · rfl
    · rename_i left
      rw [unregistered left]
      rfl
  case events =>
    rw [apart.told, List.flatMap_map, Event.filter_flatMap own once,
      (ask_refreshType_steady sound delivered steady n).1]
    split
    · rfl
    · rename_i left
      rw [unregistered left]
  case roundTrips =>
    have calls (n : String) : (s.ask (.refreshType n)).2.stats.roundTrips - s.stats.roundTrips
        = (s.session.refreshed answers n).calls := by
      rw [(ask_refreshType_steady sound delivered steady n).2.2]
      omega
    have trips := apart.roundTrips
    rw [List.map_map] at trips
    simp only [calls]
    rw [← (all.map _).sum_nat]
    exact trips

/-- What is counted of the triggers, if they keep the types apart. -/
theorem refreshTypes_reported {view : String → τ → V} {I : τ → Prop} (typewise : Typewise view I)
    (holds : I s.host) {names : List String} (all : names.Perm s.session.caches.keys)
    {count : DispatchReport → Nat} (counts : CountsTypewise view I count) :
    reported count (refreshTold names s) s
      = reported count (refreshTold s.session.caches.keys s) s := by
  have types := OrderedMap.nodup_keys s.session.caches
  have once : names.Nodup := all.nodup_iff.2 types
  rw [(refreshTypes_apart sound delivered steady once).told,
    (refreshTypes_apart sound delivered steady types).told, List.flatMap_map, List.flatMap_map]
  exact reported_perm typewise counts holds (fun n => Session.refreshed_typeName sound) types all

theorem refreshScheduled_fired {view : String → τ → V} {I : τ → Prop} (typewise : Typewise view I)
    (holds : I s.host) {schedule : List Nat}
    (all : (s.turns schedule).Perm s.session.caches.keys) :
    (refreshScheduled schedule s).2.fired = (refresh s).2.fired := by
  show (refreshTypes _ s).2.fired = (refreshTypes _ s).2.fired
  rw [refreshTypes_fired sound, refreshTypes_fired sound]
  exact congrArg (s.fired + ·) (refreshTypes_reported sound delivered steady typewise holds all
    TriggerHost.countsTypewise_fired)

theorem refreshScheduled_failed {view : String → τ → V} {I : τ → Prop} (typewise : Typewise view I)
    (fails : FailsTypewise view I) (holds : I s.host) {schedule : List Nat}
    (all : (s.turns schedule).Perm s.session.caches.keys) :
    (refreshScheduled schedule s).2.failed = (refresh s).2.failed := by
  show (refreshTypes _ s).2.failed = (refreshTypes _ s).2.failed
  rw [refreshTypes_failed sound, refreshTypes_failed sound]
  exact congrArg (s.failed + ·) (refreshTypes_reported sound delivered steady typewise holds all
    (typewise.counts_failures fails))

/-- Which refresh fails is up to the types, not to their order. -/
theorem refreshScheduled_ok_iff {schedule : List Nat}
    (all : (s.turns schedule).Perm s.session.caches.keys) :
    (refreshScheduled schedule s).1 = .ok () ↔ (refresh s).1 = .ok () := by
  have types := OrderedMap.nodup_keys s.session.caches
  have plain := (refreshTypes_apart sound delivered steady types).outcomes
  have scheduled := (refreshTypes_apart sound delivered steady (all.nodup_iff.2 types)).outcomes
  have same : ∀ o, o ∈ (refreshTypes (s.turns schedule) s).1
      ↔ o ∈ (refreshTypes s.session.caches.keys s).1 := by
    rw [plain, scheduled]
    exact fun o => ((all.map _).map _).mem_iff
  have enough := Nat.le_of_eq all.length_eq.symm
  rw [refreshScheduled_eq_ok, refresh_eq_ok]
  simp only [same, enough, and_true]

end Steady

/-- How a refresh ends does not depend on the order in which an executor completes its tasks, one
after the other, if the answer of the row store to a query depends on nothing but the query. Every
type comes to what its refresh alone comes to, whatever became of the others: the same cache, the
same events and the same calls. So a refresh through the executor leaves the same caches as a plain
one, counts the same, and succeeds if the plain one does. Triggers that never ask for registrations
are called as often, and what is counted of triggers is the same if they keep the types apart. A
refresh of which a task is left undone never succeeds, whatever the row store answers. -/
theorem refresh_any_schedule {s : Store σ τ} (reachable : s.Reachable) :
    (∀ (answers : QueryAnswers) (schedule : List Nat), Steady answers s.session.gateway.rows →
      schedule.Perm (List.range s.session.caches.keys.length) →
      let plain := refresh s
      let scheduled := refreshScheduled schedule s
      RefreshedEach s plain.2 (refreshTold s.session.caches.keys s) ∧
      RefreshedEach s scheduled.2 (refreshTold (s.turns schedule) s) ∧
      scheduled.2.session.caches = plain.2.session.caches ∧
      scheduled.2.stats = { plain.2.stats with
        fired := scheduled.2.stats.fired, failed := scheduled.2.stats.failed } ∧
      (TriggerHost.Mute τ → scheduled.2.stats.fired = plain.2.stats.fired) ∧
      (∀ (V : Type) (view : String → τ → V) (I : τ → Prop), Typewise view I → I s.host →
        scheduled.2.stats.fired = plain.2.stats.fired ∧
        (FailsTypewise view I → scheduled.2.stats = plain.2.stats)) ∧
      (scheduled.1 = .ok () ↔ plain.1 = .ok ())) ∧
    ∀ schedule : List Nat, schedule.Nodup →
      (∃ i, i < s.session.caches.keys.length ∧ i ∉ schedule) →
      (refreshScheduled schedule s).1 ≠ .ok () := by
  have sound := reachable.sound
  have delivered := reachable.outbox
  refine ⟨?orders, ?left⟩
  case orders =>
    intro answers schedule steady all plain scheduled
    have turns : (s.turns schedule).Perm s.session.caches.keys := perm_turns all
    have each : RefreshedEach s plain.2 _ :=
      refreshTypes_each sound delivered steady (.refl s.session.caches.keys)
    have eachScheduled : RefreshedEach s scheduled.2 _ :=
      refreshTypes_each sound delivered steady turns
    have counters := each.stats_eq eachScheduled
    refine ⟨each, eachScheduled, each.caches_eq eachScheduled, counters, ?mute, ?typewise,
      refreshScheduled_ok_iff sound delivered steady turns⟩
    case mute =>
      intro mute
      exact refreshScheduled_fired sound delivered steady mute.typewise trivial turns
    case typewise =>
      intro V view I typewise holds
      have fired : scheduled.2.stats.fired = plain.2.stats.fired :=
        refreshScheduled_fired sound delivered steady typewise holds turns
      refine ⟨fired, fun fails => ?_⟩
      have failed : scheduled.2.stats.failed = plain.2.stats.failed :=
        refreshScheduled_failed sound delivered steady typewise fails holds turns
      rw [counters, fired, failed]
  case left =>
    intro schedule once ⟨i, task, left⟩ completed
    have fewer := length_turns_lt once task left
    have enough := (refreshScheduled_eq_ok.1 completed).2
    omega

end Store

/-! ### A row store that cannot be changed -/

namespace Sample

/-- A dial is read like a gauge. -/
def dial : EntityType :=
  { gauge with
    name := "Dial"
    table := "dial"
    wellFormed := {
      named := by decide +kernel
      tabled := by decide +kernel
      fields := gauge.wellFormed.fields
      keyDeclared := gauge.wellFormed.keyDeclared
      keyRequired := rfl
      keyType := rfl
      keyInteger := gauge.wellFormed.keyInteger
      indexes := by simp [gauge] } }

/-- A row store that looks at nothing but the table of a query, and makes no change. -/
structure Fixed where
  rows : String → Except Error (List Row)

def Fixed.answers (store : Fixed) : QueryAnswers := fun s _ =>
  match s.command with
  | .selectKeys table _ _ _ | .selectAll table _ _ => store.rows table
  | _ => .ok []

instance : RowStore Fixed where
  query s params store := (store.answers s params, store)
  execute _ _ store := (.ok 1, store)
  executeBatch _ paramSets store := (.ok paramSets.length, store)
  insertReturningKey _ _ store := (.ok .null, store)

theorem Fixed.steady (store : Fixed) : RowStore.Steady store.answers store := by
  intro later queried s params
  have still : later = store := by
    induction queried with
    | refl => rfl
    | query _ _ _ ih => exact ih
  rw [still]
  rfl

/-- The table of the dials is locked, and there is one gauge. A trigger that is told of anything is
late. -/
def locked : Store Fixed ScriptedHost where
  session := {
    settings := { createTables := false }
    gateway := {
      dialect := Sql.Dialect.ansi
      rows := ⟨fun table =>
        if table = "dial" then .error (.backend "fixed" "locked") else .ok [row 1 7]⟩ } }
  host := { triggers := [⟨"watch", .finish (.failed "late"), none⟩] }

/-- Every table has a row. The first trigger registers the second one for every event as soon as it
is told of an update. -/
def spreading : Store Fixed ScriptedHost where
  session := {
    settings := { createTables := false }
    gateway := { dialect := Sql.Dialect.ansi, rows := ⟨fun _ => .ok [row 1 7]⟩ } }
  host := {
    triggers := [⟨"spread", .register "watch" none, some .updated⟩,
      ⟨"watch", .finish .succeeded, none⟩]
    labelled := [("watch", ⟨1, "watch"⟩), ("spread", ⟨0, "spread"⟩)] }

end Sample

open Sample in
/-- A dial and a gauge are cached. The dial cannot be refreshed, be it the first or the last one,
and the gauge has another level then. An executor that loses the task of the dial has nothing to
tell of it, and does not succeed either. -/
theorem Store.refresh_any_schedule_dial :
    let s := locked.after [.request (.register gauge), .request (.register dial),
      .addGlobalTrigger ⟨0, "watch"⟩, .request (.persist ⟨gauge, .create, level 1 5⟩),
      .request (.persist ⟨dial, .create, level 1 5⟩)]
    let plain := refresh s
    let scheduled := refreshScheduled [1, 0] s
    plain.1 = .error (.backend "fixed" "locked") ∧ scheduled.1 ≠ .ok () ∧
      scheduled.2.session.caches = plain.2.session.caches ∧
      (refreshTold (s.turns [1, 0]) s).filter (·.typeName = "Gauge")
        = [⟨gauge, .int 1, .updated (level 1 5) (level 1 7)⟩] ∧
      scheduled.2.stats = plain.2.stats ∧ plain.2.stats = ⟨0, 0, 4, 3, 3⟩ ∧
      (refreshScheduled [1] s).1 ≠ .ok () := by
  intro s plain scheduled
  have reachable : s.Reachable :=
    ⟨Sql.Dialect.ansi, { createTables := false }, locked.session.gateway.rows, locked.host, _, _,
      rfl, rfl⟩
  have still : s.session.gateway.rows = locked.session.gateway.rows := rfl
  have steady := still ▸ Fixed.steady s.session.gateway.rows
  have idle : s.host.Idle := by
    have script : s.host.triggers = locked.host.triggers := rfl
    intro code listed
    rw [script] at listed
    exact ⟨.failed "late", by rw [List.mem_singleton.1 listed]⟩
  have failed : plain.1 = .error (.backend "fixed" "locked") := by decide +kernel
  obtain ⟨orders, left⟩ := refresh_any_schedule reachable
  obtain ⟨-, each, caches, -, -, triggers, outcome⟩ := orders _ [1, 0] steady (by decide +kernel)
  obtain ⟨-, stats⟩ := triggers _ _ _ ScriptedHost.typewise idle
  refine ⟨failed, ?_, caches, ?_, stats ScriptedHost.failsTypewise, by decide +kernel, ?_⟩
  · rw [Ne, outcome, failed]
    simp
  · rw [each.events]
    decide +kernel
  · exact left [1] (by decide) ⟨0, by decide +kernel, by decide⟩

open Sample in
/-- A dial and a gauge have both changed, and a trigger for gauges registers another one for every
event. When the gauges are refreshed last, nobody is told of the dial; when they are refreshed
first, the new trigger is. So the number of calls depends on the order of the tasks. -/
theorem Store.refresh_counts_by_order :
    let s := spreading.after [.request (.register gauge), .request (.register dial),
      .request (.persist ⟨gauge, .create, level 1 5⟩),
      .request (.persist ⟨dial, .create, level 1 5⟩), .addTrigger "Gauge" ⟨0, "spread"⟩]
    s.Reachable ∧ RowStore.Steady s.session.gateway.rows.answers s.session.gateway.rows ∧
      [1, 0].Perm (List.range s.session.caches.keys.length) ∧
      (refreshScheduled [0, 1] s).2.stats = (refresh s).2.stats ∧
      (refresh s).2.stats.fired = 1 ∧ (refreshScheduled [1, 0] s).2.stats.fired = 2 := by
  intro s
  have reachable : s.Reachable :=
    ⟨Sql.Dialect.ansi, { createTables := false }, spreading.session.gateway.rows, spreading.host,
      _, _, rfl, rfl⟩
  exact ⟨reachable, Fixed.steady _, by decide +kernel, by decide +kernel, by decide +kernel,
    by decide +kernel⟩

end IdentityMap
