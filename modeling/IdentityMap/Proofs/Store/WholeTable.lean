import IdentityMap.Proofs.Cache.Snapshot
import IdentityMap.Proofs.Session.Course
import IdentityMap.Proofs.Session.Refresh
import IdentityMap.Proofs.Store.Coherence
/-!
# Lookups of whole tables

A table is listed by the cache or loaded from the row store, and its size is told by the cache, by
loading, or by a count. Which of them it is depends on the policy and on whether the cache is synced
(`Session.getAll_cache` and the four lemmas after it). For a row store whose answers tell of one
table (`RowStore.Tabulates`) they all agree, and what was loaded is listed by the cache from then on
(`Store.table_lookups`).
-/

namespace IdentityMap

open Sql (Memory)

variable {σ τ : Type}

/-! ### Ordered snapshots -/

namespace IdentityCache

variable {c c' : IdentityCache} {records : List Record} {keys : List EntityKey}
  {result : Reconciliation}

/-- A snapshot whose keys ascend is listed by the cache in its own order. -/
theorem Reconciled.in_order (reconciled : c.Reconciled c' records result)
    (keyed : records.map c.entityType.keyOf? = keys.map some)
    (ascending : keys.Pairwise fun key key' => compare key key' = .lt) :
    c'.keys = keys ∧ c'.instances = result.instances := by
  have listed : c'.keys = keys := by
    refine OrderedMap.eq_of_ascending (ascending_keys c') ascending fun key => ?_
    have carried : key ∈ keys ↔ some key ∈ records.map c.entityType.keyOf? := by
      rw [keyed]
      simp
    rw [reconciled.keys, carried, List.mem_map]
  refine ⟨listed, ?_⟩
  have shown : result.instances.map some
      = keys.map fun key => (c'.get? key).map c'.handleOf := by
    have byRecord := congrArg
      (List.map fun key? : Option EntityKey => key?.bind fun key =>
        (c'.get? key).map c'.handleOf) keyed
    rw [List.map_map, List.map_map] at byRecord
    exact reconciled.instances.trans byRecord
  calc c'.instances
      = (keys.map fun key => (c'.get? key).map c'.handleOf).filterMap id := by
        rw [instances_eq, listed, List.filterMap_map]
        rfl
    _ = result.instances := by
        rw [← shown, List.filterMap_map]
        exact List.filterMap_some

/-- Records with keys are merged, and the answer is the instances of the snapshot. -/
theorem Sound.mergeTable_reconciled (sound : c.Sound)
    (keyed : records.map c.entityType.keyOf? = keys.map some) :
    ∃ result events c', c.mergeTable records = .ok ((result.instances, events), c') ∧
      c.Reconciled c' records result := by
  have carried : ∀ r ∈ records, ∃ key, c.entityType.keyOf? r = some key := by
    intro r listed
    have member : c.entityType.keyOf? r ∈ keys.map some := keyed ▸ List.mem_map_of_mem listed
    obtain ⟨key, -, same⟩ := List.mem_map.1 member
    exact ⟨key, same.symm⟩
  obtain ⟨pairs, paired⟩ := keyed_ok_of_keys carried
  rcases done : c.reconcile records with e | ⟨result, c'⟩
  · simp [reconcile, paired, Except.map] at done
  · refine ⟨result, c'.putEvents (result.instances.zip result.outcomes)
      ++ result.removed.map c'.removalEvent, c', ?_, sound.reconciled done⟩
    rw [mergeTable, done]
    rfl

end IdentityCache

/-! ### One table -/

variable [RowStore σ]

/-- The row store would answer now with one table of the type: its rows decode to records with the
keys in ascending order, and it counts as many of them. -/
structure RowStore.Tabulates (d : Sql.Dialect) (t : EntityType) (keys : List EntityKey)
    (rows : σ) : Prop where
  listed : ∃ answer records, (RowStore.query (d.selectAll ⟨t⟩) [] rows).1 = .ok answer ∧
    TableMapping.decodeRows ⟨t⟩ answer = .ok records ∧ records.map t.keyOf? = keys.map some
  ascending : keys.Pairwise fun key key' => compare key key' = .lt
  counted : ∃ answer n, (RowStore.query (d.countRows ⟨t⟩) [] rows).1 = .ok answer ∧
    TableMapping.firstValue? answer = some (.int n) ∧ n.toInt = keys.length

/-- The count can be read from the answer. -/
theorem RowStore.Tabulates.counts {d : Sql.Dialect} {t : EntityType} {keys : List EntityKey}
    {rows : σ} (tabulates : Tabulates d t keys rows) :
    (RowStore.query (d.countRows ⟨t⟩) [] rows).1.bind TableMapping.countIn = .ok keys.length := by
  obtain ⟨answer, n, counted, first, number⟩ := tabulates.counted
  have natural : ¬ n < 0 := by
    rw [Int64.lt_iff_toInt_lt, number]
    simp
  rw [counted]
  show TableMapping.countIn answer = _
  simp only [TableMapping.countIn, first, Option.bind_some, Value.asInt?, if_neg natural, number]
  rfl

namespace Session

variable {s : Session σ} {c : IdentityCache} {typeName : String} {keys : List EntityKey}
  {policy : CachePolicy}

/-! ### The five ways -/

theorem getAll_cache (sound : s.Sound) (cached : s.caches.get? typeName = some c)
    (plan : c.planTable policy = .cache) :
    getAll typeName policy s = (.ok c.instances, s.counting 1 0) := by
  unfold getAll
  rw [bind_of_ok (sound.resolve_ok cached)]
  simp only [plan]
  rfl

theorem getSize_cache (sound : s.Sound) (cached : s.caches.get? typeName = some c)
    (plan : c.planTable policy = .cache) :
    getSize typeName policy s = (.ok c.size, s.counting 1 0) := by
  unfold getSize
  rw [bind_of_ok (sound.resolve_ok cached)]
  simp only [plan]
  rfl

theorem getAll_rowStore (sound : s.Sound) (cached : s.caches.get? typeName = some c)
    (plan : c.planTable policy = .rowStore) :
    getAll typeName policy s = reload ⟨c.entityType⟩
      (s.counting 0 (if policy = .cacheFirst then 1 else 0)) := by
  unfold getAll
  rw [bind_of_ok (sound.resolve_ok cached)]
  simp only [plan]
  by_cases first : policy = .cacheFirst
  · rw [if_pos first, if_pos first]
    rfl
  · rw [if_neg first, if_neg first]
    rfl

/-- A size that is asked for anew is that of the table that was loaded. -/
theorem getSize_forceRefresh (sound : s.Sound) (cached : s.caches.get? typeName = some c) :
    getSize typeName .forceRefresh s = ((getAll typeName .forceRefresh s).1.map List.length,
      (getAll typeName .forceRefresh s).2) := by
  rw [getAll_rowStore sound cached rfl]
  unfold getSize
  rw [bind_of_ok (sound.resolve_ok cached)]
  show (reload ⟨c.entityType⟩ >>= fun instances => return instances.length) s = _
  rcases ran : reload ⟨c.entityType⟩ s with ⟨e | handles, t⟩
  · rw [bind_of_error ran]
    exact congrArg (fun run => (run.1.map List.length, run.2)) ran.symm
  · rw [bind_of_ok ran]
    exact congrArg (fun run => (run.1.map List.length, run.2)) ran.symm

/-- The size of a table that was not loaded is asked for, and nothing is done with the answer. -/
theorem getSize_counted (sound : s.Sound) (cached : s.caches.get? typeName = some c)
    (unsynced : c.synced = false) :
    getSize typeName .cacheFirst s =
      let answer := RowStore.query (s.gateway.dialect.countRows ⟨c.entityType⟩) [] s.gateway.rows
      (answer.1.bind TableMapping.countIn, { s.counting 0 1 with
        gateway := { s.gateway with
          rows := answer.2, roundTrips := s.gateway.roundTrips + 1 } }) := by
  have plan : c.planTable .cacheFirst = .rowStore := by simp [IdentityCache.planTable, unsynced]
  unfold getSize
  rw [bind_of_ok (sound.resolve_ok cached)]
  simp only [plan]
  exact Work.access_eq (s := s.counting 0 1) (TableMapping.countRows_eq s.gateway)

/-- A lookup that may not load the table changes no cache. -/
theorem getSize_caches (sound : s.Sound) (cached : s.caches.get? typeName = some c)
    (trusting : policy ≠ .forceRefresh) :
    (getSize typeName policy s).2.caches = s.caches := by
  cases plan : c.planTable policy with
  | cache =>
    rw [getSize_cache sound cached plan]
    rfl
  | rowStore =>
    cases policy with
    | cacheOnly => cases plan
    | forceRefresh => exact absurd rfl trusting
    | cacheFirst =>
      have unsynced : c.synced = false := by
        by_contra synced
        simp [IdentityCache.planTable, synced] at plan
      rw [getSize_counted sound cached unsynced]
      rfl

/-! ### What loading brings -/

/-- A table that is loaded is merged into its cache. -/
theorem reload_tabulated (sound : s.Sound) (cached : s.caches.get? typeName = some c)
    (tabulates : RowStore.Tabulates s.gateway.dialect c.entityType keys s.gateway.rows) :
    ∃ handles c', (reload ⟨c.entityType⟩ s).1 = .ok handles ∧
      (reload ⟨c.entityType⟩ s).2.caches.get? typeName = some c' ∧ c'.synced = true ∧
      c'.keys = keys ∧ c'.instances = handles := by
  have named : c.entityType.name = typeName := sound.named _ c cached
  obtain ⟨answer, records, answered, decoded, keyed⟩ := tabulates.listed
  obtain ⟨result, events, c', merge, reconciled⟩ :=
    (sound.caches _ c cached).mergeTable_reconciled keyed
  obtain ⟨listed, shown⟩ := reconciled.in_order keyed tabulates.ascending
  have ran := access_changeCache (TableMapping.fetchAll_eq (m := ⟨c.entityType⟩) s.gateway) cached
    fun c records => c.mergeTable records
  simp only [answered, Except.bind, decoded, merge] at ran
  unfold reload
  rw [named, ran]
  exact ⟨_, c', rfl, OrderedMap.get?_insert_self .., reconciled.synced, listed, shown⟩

end Session

namespace Store

open Session

variable [TriggerHost τ] {s : Store σ τ} {typeName : String} {c : IdentityCache}
  {keys : List EntityKey} {handles : List Handle}

/-- The table of a type was loaded: its cache has just its keys, and lists it from now on. -/
structure HoldsTable (s : Store σ τ) (typeName : String) (keys : List EntityKey)
    (handles : List Handle) : Prop where
  cached : ∃ c, s.session.caches.get? typeName = some c ∧ c.synced = true ∧ c.keys = keys
  keys : handles.map (·.key) = keys
  /-- Without a wish to load it again, the table is the same, and the store only counts a hit. -/
  listed : ∀ policy, policy ≠ .forceRefresh → s.getAll typeName policy
    = (.ok handles, { s with session := s.session.counting 1 0 })

theorem getAll_counting (sound : s.session.Sound) (told : s.session.outbox = [])
    (cached : s.session.caches.get? typeName = some c) (synced : c.synced = true)
    {policy : CachePolicy} (trusting : policy ≠ .forceRefresh) :
    s.getAll typeName policy
      = (.ok c.instances, { s with session := s.session.counting 1 0 }) := by
  have plan : c.planTable policy = .cache := by
    cases policy <;> simp [IdentityCache.planTable, synced] at trusting ⊢
  show s.ask (.getAll typeName policy) = _
  have ran := getAll_cache sound cached plan
  rw [ask_eq]
  simp only [dispatched, Request.run, ran, counting, told, List.foldl_nil]

/-- A synced cache that has the keys of a table holds the table. -/
theorem holdsTable_of_synced (sound : s.session.Sound) (told : s.session.outbox = [])
    (cached : s.session.caches.get? typeName = some c) (synced : c.synced = true)
    (same : c.keys = keys) : s.HoldsTable typeName keys c.instances where
  cached := ⟨c, cached, synced, same⟩
  keys := same ▸ (sound.caches _ c cached).instances_keys
  listed _ trusting := getAll_counting sound told cached synced trusting

/-- A lookup that loads the table leaves it in the cache, and answers with what is cached then. -/
theorem getAll_loads (sound : s.session.Sound)
    (cached : s.session.caches.get? typeName = some c)
    (tabulates : RowStore.Tabulates s.session.gateway.dialect c.entityType keys
      s.session.gateway.rows)
    {policy : CachePolicy} (plan : c.planTable policy = .rowStore) :
    ∃ c', (s.getAll typeName policy).1 = .ok c'.instances ∧
      (s.getAll typeName policy).2.session.caches.get? typeName = some c' ∧
      c'.synced = true ∧ c'.keys = keys := by
  let t := s.session.counting 0 (if policy = .cacheFirst then 1 else 0)
  have countedSound : t.Sound := ⟨sound.caches, sound.named, sound.mapped⟩
  obtain ⟨_, c', answered, listed, synced, same, rfl⟩ :=
    reload_tabulated (s := t) countedSound cached tabulates
  refine ⟨c', ?_, ?_, synced, same⟩
  · show (Session.getAll typeName policy s.session).1 = _
    rw [getAll_rowStore sound cached plan]
    exact answered
  · show (s.ask (.getAll typeName policy)).2.session.caches.get? typeName = _
    rw [ask_session]
    show (Session.getAll typeName policy s.session).2.caches.get? typeName = _
    rw [getAll_rowStore sound cached plan]
    exact listed

/-- A size that is asked for anew leaves what the list of the table leaves. -/
theorem getSize_loads (sound : s.session.Sound)
    (cached : s.session.caches.get? typeName = some c) :
    (s.getSize typeName .forceRefresh).1
      = (s.getAll typeName .forceRefresh).1.map List.length ∧
    (s.getSize typeName .forceRefresh).2 = (s.getAll typeName .forceRefresh).2 := by
  unfold Store.getSize Store.getAll perform
  rw [getSize_forceRefresh sound cached]
  exact ⟨rfl, rfl⟩

/-- Size and list of a table agree whatever the policy and whatever is cached. A table that is
loaded is held by the store from then on, and a size that does not load it changes no cache. -/
theorem table_lookups (reachable : s.Reachable)
    (cached : s.session.caches.get? typeName = some c)
    (tabulates : RowStore.Tabulates s.session.gateway.dialect c.entityType keys
      s.session.gateway.rows)
    (policy : CachePolicy) :
    let all := s.getAll typeName policy
    let size := s.getSize typeName policy
    ∃ handles, all.1 = .ok handles ∧ size.1 = .ok handles.length ∧
      (policy = .forceRefresh ∨ policy = .cacheFirst ∧ c.synced = false →
        all.2.HoldsTable typeName keys handles) ∧
      (policy = .forceRefresh → size.2.HoldsTable typeName keys handles) ∧
      (policy ≠ .forceRefresh → size.2.session.caches = s.session.caches) := by
  intro all size
  have sound := reachable.sound
  have untouched : policy ≠ .forceRefresh → size.2.session.caches = s.session.caches := by
    intro trusting
    show (s.ask (.getSize typeName policy)).2.session.caches = _
    rw [ask_session]
    exact getSize_caches sound cached trusting
  cases plan : c.planTable policy with
  | cache =>
    have served : all.1 = .ok c.instances := congrArg Prod.fst (getAll_cache sound cached plan)
    have counted : size.1 = .ok c.size := congrArg Prod.fst (getSize_cache sound cached plan)
    have aside : ¬ (policy = .forceRefresh ∨ policy = .cacheFirst ∧ c.synced = false) := by
      rintro (rfl | ⟨rfl, unsynced⟩)
      · cases plan
      · simp [IdentityCache.planTable, unsynced] at plan
    have length : c.instances.length = c.size := by
      simp [IdentityCache.instances, IdentityCache.size, OrderedMap.values, OrderedMap.size]
    exact ⟨c.instances, served, length ▸ counted, fun loads => absurd loads aside,
      fun loads => absurd (.inl loads) aside, untouched⟩
  | rowStore =>
    obtain ⟨c', answered, listed, synced, same⟩ := getAll_loads sound cached tabulates plan
    have held : all.2.HoldsTable typeName keys c'.instances :=
      holdsTable_of_synced (ask_sound sound (.getAll typeName policy)).1
        (by show (s.ask (.getAll typeName policy)).2.session.outbox = []; rw [ask_session])
        listed synced same
    have length : c'.instances.length = keys.length := by
      rw [← same, ← List.length_map (f := (·.key)), held.keys, same]
    refine ⟨c'.instances, answered, ?_, fun _ => held, ?_, untouched⟩
    · cases policy with
      | cacheOnly => cases plan
      | forceRefresh =>
        show (s.getSize typeName .forceRefresh).1 = _
        rw [(getSize_loads sound cached).1, answered]
        rfl
      | cacheFirst =>
        have unsynced : c.synced = false := by
          by_contra synced
          simp [IdentityCache.planTable, synced] at plan
        show (Session.getSize typeName .cacheFirst s.session).1 = _
        rw [getSize_counted sound cached unsynced, length]
        exact tabulates.counts
    · rintro rfl
      rw [show size.2 = all.2 from (getSize_loads sound cached).2]
      exact held

end Store

/-! ### A table of which a part is cached -/

namespace Sample

/-- Memory with three gauges. -/
def gauges : Memory :=
  ((memorising []).after [
    .request (.register gauge),
    .request (.persistAll [⟨gauge, .create, level 1 5⟩, ⟨gauge, .create, level 2 6⟩,
      ⟨gauge, .create, level 3 7⟩])]).session.gateway.rows

/-- A store in front of them that has looked up the second one. -/
def reopened : Store Memory ScriptedHost :=
  Store.after [.request (.register gauge), .request (.get "Gauge" (.int 2) .cacheFirst)] {
    session := { settings := {}, gateway := { dialect := Sql.Dialect.ansi, rows := gauges } }
    host := {} }

theorem reachable_reopened : reopened.Reachable :=
  ⟨Sql.Dialect.ansi, {}, gauges, {}, _, _, rfl, rfl⟩

theorem tabulates_reopened : RowStore.Tabulates reopened.session.gateway.dialect gauge
    [.int 1, .int 2, .int 3] reopened.session.gateway.rows where
  listed := by
    have decoded : (RowStore.query (reopened.session.gateway.dialect.selectAll ⟨gauge⟩) []
        reopened.session.gateway.rows).1.bind (TableMapping.decodeRows ⟨gauge⟩)
        = .ok [level 1 5, level 2 6, level 3 7] := by decide +kernel
    cases answered : (RowStore.query (reopened.session.gateway.dialect.selectAll ⟨gauge⟩) []
        reopened.session.gateway.rows).1 with
    | error e =>
      rw [answered] at decoded
      cases decoded
    | ok answer =>
      rw [answered] at decoded
      exact ⟨answer, _, rfl, decoded, by decide +kernel⟩
  ascending := by decide +kernel
  counted := ⟨[⟨["count"], [.int 3]⟩], 3, by decide +kernel, rfl, rfl⟩

end Sample

namespace Store

/-- One of three gauges is cached. The count agrees with the table that is loaded, and the cache
lists the table from then on. -/
theorem table_lookups_gauges :
    let s := Sample.reopened
    let all := s.getAll "Gauge" .cacheFirst
    let size := s.getSize "Gauge" .cacheFirst
    let handles := [⟨"Gauge", .int 1, 1⟩, ⟨"Gauge", .int 2, 0⟩, ⟨"Gauge", .int 3, 2⟩]
    all.1 = .ok handles ∧ size.1 = .ok 3 ∧
      all.2.HoldsTable "Gauge" [.int 1, .int 2, .int 3] handles ∧
      size.2.session.caches = s.session.caches := by
  intro s all size handles
  have seen : (s.session.caches.get? "Gauge").map (fun c => (c.entityType, c.keys, c.synced))
      = some (Sample.gauge, [.int 2], false) := by decide +kernel
  obtain ⟨c, cached, same⟩ := Option.map_eq_some_iff.1 seen
  obtain ⟨type, -, unsynced⟩ : c.entityType = Sample.gauge ∧ c.keys = [.int 2] ∧
      c.synced = false := by simpa using same
  have listed : all.1 = .ok handles := by decide +kernel
  obtain ⟨answer, answered, counted, loaded, -, untouched⟩ :=
    table_lookups Sample.reachable_reopened cached (type ▸ Sample.tabulates_reopened) .cacheFirst
  obtain rfl : handles = answer := Except.ok.inj (listed.symm.trans answered)
  exact ⟨listed, counted, loaded (.inr ⟨rfl, unsynced⟩), untouched (by decide)⟩

end Store

end IdentityMap
