import IdentityMap.Proofs.Session.Request
/-!
# Refreshing a type

The refresh of a type sends one query at most, which its cache decides on, and merges the answer
into this cache (`Session.refreshType_eq`). So where the answer to a query depends on nothing but
the query (`RowStore.Steady`), what comes of a refresh depends on nothing but the cache: not on what
was refreshed before, nor on what came of that (`Session.refreshed_receive`).
-/

namespace IdentityMap

variable {σ : Type}

/-! ### Row stores that answer a query always alike -/

/-- What a query is answered with, by its statement and its parameters. -/
abbrev QueryAnswers := Sql.Statement → List Value → Except Error (List Row)

section Steady

variable [RowStore σ] {answers : QueryAnswers} {rows rows' : σ}

/-- The row store gets from one state to the other by queries. -/
inductive RowStore.Queried (rows : σ) : σ → Prop
  | refl : Queried rows rows
  | query {rows' : σ} (s : Sql.Statement) (params : List Value) (before : Queried rows rows') :
    Queried rows (RowStore.query s params rows').2

/-- Whatever it was asked before, the answer of the row store to a query is the one in `answers`. -/
def RowStore.Steady (answers : QueryAnswers) (rows : σ) : Prop :=
  ∀ rows', Queried rows rows' → ∀ s params, (RowStore.query s params rows').1 = answers s params

theorem RowStore.Queried.trans {rows₁ : σ} (first : Queried rows rows₁)
    (later : Queried rows₁ rows') : Queried rows rows' := by
  induction later with
  | refl => exact first
  | query s params _ ih => exact .query s params ih

theorem RowStore.Steady.queried (steady : Steady answers rows) (asked : Queried rows rows') :
    Steady answers rows' :=
  fun _ later => steady _ (asked.trans later)

end Steady

/-! ### What comes of a refresh -/

/-- What comes of the refresh of a type. -/
structure Refreshment where
  outcome : Except Error Unit
  events : List Event := []
  /-- The cache of the type, if it has changed. -/
  cache? : Option IdentityCache := none
  /-- How many calls to the row store were made. -/
  calls : Nat := 0

/-- The caches after the refresh of a type. -/
def Refreshment.into (r : Refreshment) (typeName : String) (caches : CacheSet) : CacheSet :=
  match r.cache? with
  | some c => caches.insert typeName c
  | none => caches

namespace IdentityCache

/-- The query of a refresh, with its parameters. A cache without keys sends none, unless it is
synced. -/
def refreshQuery? (d : Sql.Dialect) (c : IdentityCache) :
    Option (Sql.Statement × List Value) :=
  if c.synced then some (d.selectAll ⟨c.entityType⟩, [])
  else
    (d.selectKeys ⟨c.entityType⟩ c.keys.length).toOption.map (·, c.keys.map EntityKey.toValue)

/-- Merge the records that the query of a refresh brought. -/
def mergeRefresh (c : IdentityCache) (records : List Record) :
    Except Error ((List Handle × List Event) × IdentityCache) :=
  if c.synced then c.mergeTable records else c.mergeFetched c.keys records

/-- What comes of the refresh of a cache, given the answers of the row store. -/
def refreshed (answers : QueryAnswers) (d : Sql.Dialect) (c : IdentityCache) : Refreshment :=
  match c.refreshQuery? d with
  | none => { outcome := .ok () }
  | some (statement, params) =>
    let records := (answers statement params).bind (TableMapping.decodeRows ⟨c.entityType⟩)
    match records.bind c.mergeRefresh with
    | .error e => { outcome := .error e, calls := 1 }
    | .ok ((_, events), c') => { outcome := .ok (), events, cache? := some c', calls := 1 }

end IdentityCache

namespace Session

/-- What comes of the refresh of a type, given the answers of the row store. -/
def refreshed (answers : QueryAnswers) (typeName : String) (s : Session σ) : Refreshment :=
  match s.caches.get? typeName with
  | none => { outcome := .error (.unregisteredType typeName) }
  | some c => c.refreshed answers s.gateway.dialect

/-- The session after the refresh of a type that has left the row store in the state `rows`. -/
def receive (typeName : String) (r : Refreshment) (rows : σ) (s : Session σ) : Session σ :=
  { s with
    gateway := { s.gateway with rows, roundTrips := s.gateway.roundTrips + r.calls }
    caches := r.into typeName s.caches
    outbox := s.outbox ++ r.events }

end Session

/-! ### Refreshing a cache -/

namespace IdentityCache

variable {d : Sql.Dialect} {c : IdentityCache}

theorem refreshQuery?_of_synced (synced : c.synced = true) :
    c.refreshQuery? d = some (d.selectAll ⟨c.entityType⟩, []) := by
  simp [refreshQuery?, synced]

theorem refreshQuery?_of_nil (synced : ¬ c.synced = true) (none : c.keys = []) :
    c.refreshQuery? d = Option.none := by
  simp [refreshQuery?, synced, none, Sql.Dialect.selectKeys, Except.toOption]

theorem refreshQuery?_of_ok {statement : Sql.Statement} (synced : ¬ c.synced = true)
    (produced : d.selectKeys ⟨c.entityType⟩ c.keys.length = .ok statement) :
    c.refreshQuery? d = some (statement, c.keys.map EntityKey.toValue) := by
  simp [refreshQuery?, synced, produced, Except.toOption]

/-- A query is produced for keys, if there are any. -/
theorem selectKeys_keys (some : c.keys ≠ []) :
    ∃ statement, d.selectKeys ⟨c.entityType⟩ c.keys.length = .ok statement := by
  simp [Sql.Dialect.selectKeys, some]

end IdentityCache

namespace Session

open RowStore (Queried Steady)

variable [RowStore σ] {s : Session σ} {answers : QueryAnswers} {typeName : String}

omit [RowStore σ] in
/-- What an access answers with changes the cache of a type, if the access answers and the change is
made. -/
theorem access_changeCache {α β : Type} {c : IdentityCache} {a : Access σ α} {o : Except Error α}
    {g : Gateway σ} (answered : a s.gateway = (o, g)) (cached : s.caches.get? typeName = some c)
    (change : IdentityCache → α → Except Error ((β × List Event) × IdentityCache)) :
    (Work.access a >>= fun x => Work.changeCache typeName fun c => change c x) s =
      match o.bind (change c) with
      | .error e => (.error e, { s with gateway := g })
      | .ok ((b, events), c') => (.ok b, { s with
          gateway := g
          caches := s.caches.insert typeName c'
          outbox := s.outbox ++ events }) := by
  cases o with
  | error e =>
    rw [bind_of_error (Work.access_eq answered)]
    rfl
  | ok x =>
    rw [bind_of_ok (Work.access_eq answered)]
    unfold Work.changeCache
    rw [Work.cache_eq_ok.2 cached]
    cases changed : change c x <;> simp only [Except.bind, changed]

/-- The answers that the row store would give now. -/
def answersNow (s : Session σ) : QueryAnswers :=
  fun statement params => (RowStore.query statement params s.gateway.rows).1

/-- The query of a refresh is sent, and its answer goes through one merge. -/
theorem refresh_merge {c : IdentityCache} {statement : Sql.Statement} {params : List Value}
    {a : Access σ (List Record)} (cached : s.caches.get? typeName = some c)
    (asks : c.refreshQuery? s.gateway.dialect = some (statement, params))
    (answered : a s.gateway =
      let answer := RowStore.query statement params s.gateway.rows
      (answer.1.bind (TableMapping.decodeRows ⟨c.entityType⟩),
        { s.gateway with rows := answer.2, roundTrips := s.gateway.roundTrips + 1 }))
    {f : IdentityCache → List Record → Except Error ((List Handle × List Event) × IdentityCache)}
    (merges : c.mergeRefresh = f c) :
    ((Work.access a >>= fun records => Work.changeCache typeName fun c => f c records) >>=
        fun _ => return ()) s =
      let r := s.refreshed s.answersNow typeName
      (r.outcome, s.receive typeName r (RowStore.query statement params s.gateway.rows).2) := by
  have merged := access_changeCache answered cached f
  simp only [refreshed, cached, IdentityCache.refreshed, asks, merges, answersNow]
  cases outcome : ((RowStore.query statement params s.gateway.rows).1.bind
      (TableMapping.decodeRows ⟨c.entityType⟩)).bind (f c) with
  | error e =>
    rw [outcome] at merged
    rw [bind_of_error merged]
    simp [receive, Refreshment.into]
  | ok result =>
    obtain ⟨⟨handles, events⟩, c'⟩ := result
    rw [outcome] at merged
    rw [bind_of_ok merged]
    rfl

/-- A refresh sends the query that the cache decides on, and puts the answer into the cache. -/
theorem refreshType_eq (sound : s.Sound) (typeName : String) :
    ∃ rows, Queried s.gateway.rows rows ∧
      refreshType typeName s =
        let r := s.refreshed s.answersNow typeName
        (r.outcome, s.receive typeName r rows) := by
  cases cached : s.caches.get? typeName with
  | none =>
    refine ⟨s.gateway.rows, .refl, ?_⟩
    have unregistered : (Work.resolve typeName : Work σ _) s
        = (.error (.unregisteredType typeName), s) := by
      simp [Work.resolve, CacheSet.cache, cached]
    unfold refreshType
    rw [bind_of_error unregistered]
    simp [refreshed, cached, receive, Refreshment.into]
  | some c =>
    have named : c.entityType.name = typeName := sound.named _ c cached
    unfold refreshType
    rw [bind_of_ok (sound.resolve_ok cached)]
    dsimp only
    by_cases synced : c.synced = true
    · refine ⟨_, .query (s.gateway.dialect.selectAll ⟨c.entityType⟩) [] .refl, ?_⟩
      rw [if_pos synced]
      unfold reload
      rw [named]
      refine refresh_merge cached (IdentityCache.refreshQuery?_of_synced synced)
        (TableMapping.fetchAll_eq _) ?_
      funext records
      simp [IdentityCache.mergeRefresh, synced]
    rw [if_neg synced]
    by_cases none : c.keys = []
    · refine ⟨s.gateway.rows, .refl, ?_⟩
      have silent : c.refreshQuery? s.gateway.dialect = Option.none :=
        IdentityCache.refreshQuery?_of_nil synced none
      simp only [refreshed, cached, IdentityCache.refreshed, silent]
      simp [none, receive, Refreshment.into]
      rfl
    · obtain ⟨statement, produced⟩ := IdentityCache.selectKeys_keys (d := s.gateway.dialect) none
      refine ⟨_, .query statement (c.keys.map EntityKey.toValue) .refl, ?_⟩
      rw [if_pos none]
      unfold fetchKeys
      rw [named]
      refine refresh_merge (f := fun c' records => c'.mergeFetched c.keys records) cached
        (IdentityCache.refreshQuery?_of_ok synced produced) (TableMapping.fetchKeys_eq produced) ?_
      funext records
      simp [IdentityCache.mergeRefresh, synced]

/-- The answers of a steady row store are known beforehand. -/
theorem answersNow_of_steady (steady : Steady answers s.gateway.rows) : s.answersNow = answers := by
  funext statement params
  exact steady _ .refl statement params

end Session

/-! ### What a refresh leaves alone -/

namespace IdentityCache

variable {c c' : IdentityCache} {handles : List Handle} {events : List Event}

theorem putEvent?_entityType {h : Handle} {outcome : PutOutcome} {e : Event}
    (told : c.putEvent? h outcome = some e) : e.entityType = c.entityType := by
  unfold putEvent? at told
  split at told <;> cases told <;> rfl

/-- What putting and removing amount to is about the type of the cache. -/
theorem entityType_of_mem_events {merged : List (Handle × PutOutcome)} {removed : List Handle}
    {e : Event} (told : e ∈ c.putEvents merged ++ removed.map c.removalEvent) :
    e.entityType = c.entityType := by
  rcases List.mem_append.1 told with put | gone
  · obtain ⟨m, -, told⟩ := List.mem_filterMap.1 put
    exact putEvent?_entityType told
  · obtain ⟨h, -, rfl⟩ := List.mem_map.1 gone
    rfl

/-- The events of a refresh are about the type that is refreshed. -/
theorem mergeRefresh_entityType (sound : c.Sound) {records : List Record}
    (merge : c.mergeRefresh records = .ok ((handles, events), c')) :
    ∀ e ∈ events, e.entityType = c.entityType := by
  intro e told
  unfold mergeRefresh at merge
  split at merge
  · obtain ⟨pairs, -, -, -, rfl, rfl⟩ := mergeTable_eq_ok merge
    simpa [markSynced] using entityType_of_mem_events told
  · obtain ⟨pairs, -, -, -, rfl, rfl⟩ := mergeFetched_eq_ok sound merge
    simpa using entityType_of_mem_events told

/-- A refresh changes nothing and tells nothing, or it has merged an answer. -/
theorem refreshed_cases (answers : QueryAnswers) (d : Sql.Dialect) (c : IdentityCache) :
    ((c.refreshed answers d).events = [] ∧ (c.refreshed answers d).cache? = none) ∨
    ∃ records handles events c', c.mergeRefresh records = .ok ((handles, events), c') ∧
      c.refreshed answers d = { outcome := .ok (), events, cache? := some c', calls := 1 } := by
  unfold refreshed
  cases c.refreshQuery? d with
  | none => exact .inl ⟨rfl, rfl⟩
  | some query =>
    obtain ⟨statement, params⟩ := query
    dsimp only
    cases (answers statement params).bind (TableMapping.decodeRows ⟨c.entityType⟩) with
    | error e => exact .inl ⟨rfl, rfl⟩
    | ok records =>
      dsimp only [Except.bind]
      cases merge : c.mergeRefresh records with
      | error e => exact .inl ⟨rfl, rfl⟩
      | ok merged => exact .inr ⟨records, _, _, _, merge, rfl⟩

end IdentityCache

namespace Session

variable {s s' : Session σ} {answers : QueryAnswers} {typeName n : String}

/-- The events of a refresh are about its type. -/
theorem refreshed_typeName (sound : s.Sound) :
    ∀ e ∈ (s.refreshed answers typeName).events, e.typeName = typeName := by
  intro e told
  unfold refreshed at told
  cases cached : s.caches.get? typeName with
  | none => simp [cached] at told
  | some c =>
    simp only [cached] at told
    rcases IdentityCache.refreshed_cases answers s.gateway.dialect c with ⟨none, -⟩ |
      ⟨records, handles, events, c', merge, same⟩
    · simp [none] at told
    · rw [same] at told
      have type := IdentityCache.mergeRefresh_entityType (sound.caches _ c cached) merge e told
      rw [← sound.named _ c cached, ← type]
      rfl

theorem get?_into_self (r : Refreshment) (typeName : String) (caches : CacheSet) :
    (r.into typeName caches).get? typeName = r.cache?.or (caches.get? typeName) := by
  unfold Refreshment.into
  split <;> simp [*]

/-- The caches of other types are as before. -/
theorem get?_into_of_ne {r : Refreshment} {caches : CacheSet} (differ : typeName ≠ n) :
    (r.into typeName caches).get? n = caches.get? n := by
  unfold Refreshment.into
  split
  · exact OrderedMap.get?_insert_of_ne _ _ differ
  · rfl

/-- No type is lost, and none is added. -/
theorem contains_refreshed (answers : QueryAnswers) (typeName n : String) (s : Session σ) :
    ((s.refreshed answers typeName).into typeName s.caches).contains n = s.caches.contains n := by
  unfold OrderedMap.contains
  by_cases own : typeName = n
  · subst own
    unfold refreshed Refreshment.into
    cases cached : s.caches.get? typeName with
    | none => simp [cached]
    | some c =>
      split
      · simp
      · rw [cached]
  · rw [get?_into_of_ne own]

/-- What comes of the refresh of a type is the same after another type has been refreshed. -/
theorem refreshed_receive {r : Refreshment} {rows : σ} (differ : typeName ≠ n) :
    (s.receive typeName r rows).refreshed answers n = s.refreshed answers n := by
  unfold refreshed receive
  dsimp only
  rw [get?_into_of_ne differ]

end Session

end IdentityMap
