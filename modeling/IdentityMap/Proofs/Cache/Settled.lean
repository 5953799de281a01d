import IdentityMap.Proofs.Cache.Changes
import IdentityMap.Proofs.Cache.Snapshot
/-!
# Caches that are read anew

Where records with different keys have been merged, the cache confirms them
(`IdentityCache.Confirms`): it holds each of them under its key, and under the keys that were read
it holds nothing else. This is all that the same records, in whatever order, need in order to be
merged without an event (`IdentityCache.Confirms.merge`). The second merge replaces each record by
itself, so it only counts one more revision for each instance that was read
(`IdentityCache.Reread`).
-/

namespace IdentityMap

/-- What is read anew of the table of a type. -/
inductive RefreshScope
  | keys (asked : List EntityKey)
  | table

namespace RefreshScope

/-- The keys whose rows are read. -/
def Covers : RefreshScope → EntityKey → Prop
  | keys asked, key => key ∈ asked
  | table, _ => True

/-- Merge the records of the rows that were read. -/
def merge (scope : RefreshScope) (c : IdentityCache) (records : List Record) :
    Except Error ((List Handle × List Event) × IdentityCache) :=
  match scope with
  | keys asked => c.mergeFetched asked records
  | table => c.mergeTable records

end RefreshScope

namespace IdentityCache

variable {c c₁ c' : IdentityCache} {key : EntityKey} {i : Instance} {p q : EntityKey → Prop}
  {pairs : List (EntityKey × Record)}

/-! ### One more revision -/

/-- Each instance whose key was read counts one more revision, and nothing else is different. -/
structure Reread (read : EntityKey → Prop) (c c' : IdentityCache) : Prop where
  rest : c' = { c with entries := c'.entries }
  keys : c'.keys = c.keys
  revised : ∀ key i, read key → c.get? key = some i →
    c'.get? key = some { i with revision := i.revision + 1 }
  kept : ∀ key, ¬ read key → c'.get? key = c.get? key

namespace Reread

theorem refl (none : ∀ key, ¬ p key) (c : IdentityCache) : Reread p c c :=
  ⟨rfl, rfl, fun key _ read => absurd read (none key), fun _ _ => rfl⟩

/-- A key is cached afterwards if it was cached before. -/
theorem get?_eq_none_iff (reread : Reread p c c') : c'.get? key = none ↔ c.get? key = none := by
  have same : (∃ i, c'.get? key = some i) ↔ ∃ i, c.get? key = some i :=
    calc (∃ i, c'.get? key = some i) ↔ key ∈ c'.keys := OrderedMap.mem_keys_iff.symm
      _ ↔ key ∈ c.keys := by rw [reread.keys]
      _ ↔ ∃ i, c.get? key = some i := OrderedMap.mem_keys_iff
  rw [← not_iff_not, ← Ne, ← Ne, Option.ne_none_iff_exists', Option.ne_none_iff_exists', same]

theorem entityType (reread : Reread p c c') : c'.entityType = c.entityType :=
  congrArg (·.entityType) reread.rest

theorem synced (reread : Reread p c c') : c'.synced = c.synced := congrArg (·.synced) reread.rest

/-- Readings of different keys add up. -/
theorem trans (first : Reread p c c₁) (later : Reread q c₁ c') (apart : ∀ key, p key → ¬ q key) :
    Reread (fun key => p key ∨ q key) c c' where
  rest := by
    rw [later.rest, first.rest]
  keys := later.keys.trans first.keys
  revised key i read found := by
    rcases read with read | read
    · rw [later.kept key (apart key read), first.revised key i read found]
    · have still := first.kept key fun other => apart key other read
      exact later.revised key i read (still.trans found)
  kept key unread := by
    rw [later.kept key fun read => unread (.inr read),
      first.kept key fun read => unread (.inl read)]

/-- It does not matter whether keys were read that are not cached. -/
theorem of_iff (reread : Reread p c c') (same : ∀ key i, c.get? key = some i → (p key ↔ q key)) :
    Reread q c c' where
  rest := reread.rest
  keys := reread.keys
  revised key i read found := reread.revised key i ((same key i found).2 read) found
  kept key unread := by
    cases found : c.get? key with
    | none => exact reread.get?_eq_none_iff.2 found
    | some i => exact (reread.kept key fun read => unread ((same key i found).1 read)).trans found

/-- A synced cache is not synced anew. -/
theorem markSynced (reread : Reread p c c') (synced : c.synced = true) :
    Reread p c (c'.markSynced true) where
  rest := by
    rw [IdentityCache.markSynced, reread.rest, ← synced]
  keys := reread.keys
  revised := reread.revised
  kept := reread.kept

/-- The instance of every key is the same. -/
theorem handle? (reread : Reread p c c') (key : EntityKey) :
    (c'.get? key).map c'.handleOf = (c.get? key).map c.handleOf := by
  have handleOf (i : Instance) : c'.handleOf i = c.handleOf i := by
    rw [IdentityCache.handleOf, typeName, reread.entityType]
    rfl
  cases found : c.get? key with
  | none => rw [reread.get?_eq_none_iff.2 found]; rfl
  | some i =>
    by_cases read : p key
    · rw [reread.revised key i read found, Option.map_some, handleOf]
      rfl
    · rw [reread.kept key read, found, Option.map_some, handleOf]
      rfl

end Reread

/-! ### Records that are held already -/

/-- Every record is held under its key, and can be told to be the same. -/
def Holding (c : IdentityCache) (pairs : List (EntityKey × Record)) : Prop :=
  ∀ p ∈ pairs, (∃ i, c.get? p.1 = some i ∧ i.record = p.2) ∧ p.2.hasNaN = false

theorem putKeyed_held (found : c.get? key = some i) (numbers : i.record.hasNaN = false) :
    (c.putKeyed key i.record).1.2 = .unchanged ∧
      Reread (· = key) c (c.putKeyed key i.record).2 := by
  have put : c.putKeyed key i.record = ((c.handleOf i, .unchanged),
      { c with entries := c.entries.insert key (i.replace i.record) }) := by
    simp [putKeyed, found, Record.same_self numbers]
  have after (k : EntityKey) : (c.putKeyed key i.record).2.get? k
      = if k = key then some (i.replace i.record) else c.get? k := by
    by_cases own : k = key
    · rw [if_pos own, own, get?_putKeyed_self, instanceAfter_of_get? found]
    · rw [if_neg own, get?_putKeyed_of_ne c _ (Ne.symm own)]
  refine ⟨by rw [put], ⟨by rw [put], ?_, ?_, ?_⟩⟩
  · rw [put]
    exact OrderedMap.keys_insert_of_get? found _
  · rintro k j rfl found'
    cases found.symm.trans found'
    rw [after, if_pos rfl]
    rfl
  · intro k other
    rw [after, if_neg other]

/-- Records that are held already are put without a change. -/
theorem putAllKeyed_held (once : (pairs.map (·.1)).Nodup) (holding : c.Holding pairs) :
    (∀ m ∈ (putAllKeyed pairs c).1, m.2 = .unchanged) ∧
      Reread (· ∈ pairs.map (·.1)) c (putAllKeyed pairs c).2 := by
  induction pairs generalizing c with
  | nil => exact ⟨by simp [putAllKeyed], .refl (by simp) c⟩
  | cons p rest ih =>
    obtain ⟨key, r⟩ := p
    rw [List.map_cons, List.nodup_cons] at once
    obtain ⟨absent, once⟩ := once
    obtain ⟨⟨i, found, rfl⟩, numbers⟩ := holding _ List.mem_cons_self
    obtain ⟨unchanged, first⟩ := putKeyed_held found numbers
    have others : (c.putKeyed key i.record).2.Holding rest := by
      intro q listed
      have other : key ≠ q.1 := fun same => absent (List.mem_map.2 ⟨q, listed, same.symm⟩)
      rw [get?_putKeyed_of_ne c _ other]
      exact holding q (List.mem_cons_of_mem _ listed)
    obtain ⟨silent, later⟩ := ih once others
    rw [putAllKeyed_cons]
    refine ⟨?_, (first.trans later fun k own => own ▸ absent).of_iff fun k _ _ => ?_⟩
    · intro m listed
      rcases List.mem_cons.1 listed with rfl | listed
      · exact unchanged
      · exact silent m listed
    · rw [List.map_cons, List.mem_cons]

/-- Puts without a change are no events. -/
theorem putEvents_unchanged {merged : List (Handle × PutOutcome)}
    (unchanged : ∀ m ∈ merged, m.2 = .unchanged) : c.putEvents merged = [] := by
  refine List.filterMap_eq_nil_iff.2 fun m listed => ?_
  rw [unchanged m listed]
  rfl

/-- Keys that are not cached are removed without a change. -/
theorem removeAll_missing {keys : List EntityKey} (missing : ∀ key ∈ keys, c.get? key = none) :
    removeAll keys c = ([], c) := by
  induction keys with
  | nil => rfl
  | cons key rest ih =>
    have others := ih fun k listed => missing k (List.mem_cons_of_mem _ listed)
    rw [removeAll_cons, remove_of_none (missing key List.mem_cons_self), others]
    rfl

/-! ### Confirmed records -/

variable {scope : RefreshScope} {records : List Record} {handles : List Handle}
  {events : List Event}

/-- The cache holds the records, and under the keys that were read nothing else. -/
structure Confirms (c : IdentityCache) (scope : RefreshScope) (records : List Record) :
    Prop where
  held : ∀ r ∈ records, ∃ key i, c.entityType.keyOf? r = some key ∧ scope.Covers key ∧
    c.get? key = some i ∧ i.record = r
  only : ∀ key i, scope.Covers key → c.get? key = some i →
    ∃ r ∈ records, c.entityType.keyOf? r = some key
  synced : scope = .table → c.synced = true

/-- The order of the records does not matter. -/
theorem Confirms.perm {records' : List Record} (confirms : c.Confirms scope records)
    (same : records'.Perm records) : c.Confirms scope records' where
  held r listed := confirms.held r (same.mem_iff.1 listed)
  only key i read found := by
    obtain ⟨r, listed, carries⟩ := confirms.only key i read found
    exact ⟨r, same.mem_iff.2 listed, carries⟩
  synced := confirms.synced

theorem merge_eq_ok (merge : scope.merge c records = .ok ((handles, events), c')) :
    ∃ pairs, c.keyed records = .ok pairs := by
  cases keyed : c.keyed records with
  | ok pairs => exact ⟨pairs, rfl⟩
  | error e =>
    cases scope <;>
      simp [RefreshScope.merge, mergeFetched, putAll, mergeTable, reconcile, keyed, Except.map]
        at merge

/-- Records that all carry keys are merged. -/
theorem merge_ok (scope : RefreshScope) (keyed : c.keyed records = .ok pairs) :
    ∃ handles events c', scope.merge c records = .ok ((handles, events), c') := by
  cases scope <;>
    simp [RefreshScope.merge, mergeFetched, putAll, mergeTable, reconcile, keyed, Except.map]

theorem merge_steps (sound : c.Sound)
    (merge : scope.merge c records = .ok ((handles, events), c')) : Steps c c' := by
  cases scope with
  | keys asked => exact (mergeFetched_merged sound merge).steps
  | table => exact (mergeTable_merged sound merge).steps

/-- What was merged is confirmed, if no key came twice and none that was not read. -/
theorem confirms_of_merge (sound : c.Sound) (once : KeysOnce c.entityType records)
    (within : ∀ r ∈ records, ∀ key, c.entityType.keyOf? r = some key → scope.Covers key)
    (merge : scope.merge c records = .ok ((handles, events), c')) : c'.Confirms scope records := by
  obtain ⟨pairs, keyed⟩ := merge_eq_ok merge
  obtain ⟨rfl, carried⟩ := keyed_eq_ok keyed
  have type : c'.entityType = c.entityType := (merge_steps sound merge).entityType
  -- an instance that the merge neither put nor removed would have to be cached unread
  obtain ⟨gone, rewrites, left⟩ : ∃ gone, Rewrites c c' pairs gone ∧
      ∀ key i, scope.Covers key → c.get? key = some i → key ∉ pairs.map (·.1) → key ∈ gone := by
    cases scope with
    | keys asked =>
      refine ⟨_, rewrites_mergeFetched sound once merge keyed, fun key i read _ absent => ?_⟩
      exact List.mem_filter.2 ⟨read, by simpa using absent⟩
    | table =>
      refine ⟨_, rewrites_mergeTable once merge keyed, fun key i _ found absent => ?_⟩
      exact List.mem_filter.2 ⟨OrderedMap.mem_keys_iff.2 ⟨i, found⟩, by simpa using absent⟩
  refine ⟨fun r listed => ?held, fun key i read found => ?only, ?synced⟩
  case held =>
    obtain ⟨p, member, rfl⟩ := List.mem_map.1 listed
    obtain ⟨i, found, same, -⟩ := rewrites.put p member
    exact ⟨p.1, i, type ▸ carried p member, within _ listed _ (carried p member), found, same⟩
  case only =>
    by_cases put : key ∈ pairs.map (·.1)
    · obtain ⟨p, member, rfl⟩ := List.mem_map.1 put
      exact ⟨p.2, List.mem_map_of_mem member, type ▸ carried p member⟩
    · exfalso
      by_cases removed : key ∈ gone
      · rw [rewrites.removed key removed] at found
        cases found
      · rw [rewrites.others key put removed] at found
        exact removed (left key i read found put)
  case synced =>
    rintro rfl
    obtain ⟨pairs, -, -, -, rfl, -⟩ := mergeTable_eq_ok merge
    rfl

/-- Confirmed records are merged without an event. -/
theorem Confirms.merge (confirms : c.Confirms scope records) (sound : c.Sound)
    (once : KeysOnce c.entityType records) (numbers : ∀ r ∈ records, r.hasNaN = false) :
    ∃ handles c', scope.merge c records = .ok ((handles, []), c') ∧ Reread scope.Covers c c' := by
  obtain ⟨pairs, keyed⟩ : ∃ pairs, c.keyed records = .ok pairs :=
    keyed_ok_of_keys fun r listed => by
      obtain ⟨key, -, carries, -⟩ := confirms.held r listed
      exact ⟨key, carries⟩
  obtain ⟨rfl, carried⟩ := keyed_eq_ok keyed
  have holding : c.Holding pairs := by
    intro p member
    have listed : p.2 ∈ pairs.map (·.2) := List.mem_map_of_mem member
    obtain ⟨key, i, carries, -, found, same⟩ := confirms.held p.2 listed
    obtain rfl : p.1 = key := Option.some.inj ((carried p member).symm.trans carries)
    exact ⟨⟨i, found, same⟩, numbers p.2 listed⟩
  obtain ⟨unchanged, reread⟩ := putAllKeyed_held (once.pairs keyed) holding
  -- a key that was read is cached just where its record came again
  have came (key : EntityKey) (i : Instance) (found : c.get? key = some i) :
      key ∈ pairs.map (·.1) ↔ scope.Covers key := by
    constructor
    · intro put
      obtain ⟨p, member, rfl⟩ := List.mem_map.1 put
      obtain ⟨key, -, carries, read, -⟩ := confirms.held p.2 (List.mem_map_of_mem member)
      rwa [Option.some.inj ((carried p member).symm.trans carries)]
    · intro read
      obtain ⟨r, listed, carries⟩ := confirms.only key i read found
      obtain ⟨p, member, rfl⟩ := List.mem_map.1 listed
      rw [← Option.some.inj ((carried p member).symm.trans carries)]
      exact List.mem_map_of_mem member
  obtain ⟨handles, events, c', merge⟩ := merge_ok scope keyed
  refine ⟨handles, c', ?_⟩
  cases scope with
  | keys asked =>
    obtain ⟨_, keyed', -, -, rfl, rfl⟩ := mergeFetched_eq_ok sound merge
    cases keyed.symm.trans keyed'
    have missing : ∀ key ∈ vanished asked pairs, (putAllKeyed pairs c).2.get? key = none := by
      intro key gone
      rw [reread.get?_eq_none_iff, Option.eq_none_iff_forall_ne_some]
      intro i found
      exact not_mem_of_vanished gone ((came key i found).2 (List.mem_filter.1 gone).1)
    simp only [removeAll_missing missing, List.map_nil, List.append_nil] at merge ⊢
    rw [putEvents_unchanged unchanged] at merge
    exact ⟨merge, reread.of_iff came⟩
  | table =>
    obtain ⟨_, keyed', -, -, rfl, rfl⟩ := mergeTable_eq_ok merge
    cases keyed.symm.trans keyed'
    have none : c.stale pairs = [] := by
      refine List.eq_nil_iff_forall_not_mem.2 fun key gone => ?_
      obtain ⟨i, found⟩ := OrderedMap.mem_keys_iff.1 (List.mem_filter.1 gone).1
      exact not_mem_of_stale gone ((came key i found).2 trivial)
    simp only [none, removeAll, List.map_nil, List.append_nil] at merge ⊢
    rw [putEvents_unchanged unchanged] at merge
    exact ⟨merge, (reread.of_iff came).markSynced (confirms.synced rfl)⟩

/-- A table is answered with the instances that are cached under the keys of its records. -/
theorem handles_mergeTable (sound : c.Sound)
    (merge : c.mergeTable records = .ok ((handles, events), c')) :
    handles.map some = records.map fun r =>
      (c.entityType.keyOf? r).bind fun key => (c'.get? key).map c'.handleOf := by
  obtain ⟨pairs, keyed, carried, rfl, rfl, -⟩ := mergeTable_eq_ok merge
  obtain ⟨rfl, -⟩ := keyed_eq_ok keyed
  have carriedLeft : Carried (removeAll (c.stale pairs) c).2.entityType pairs := by
    rwa [removeAll_entityType]
  have listed := instances_putAllKeyed (sound.steps (steps_removeAll (c.stale pairs) c)) carriedLeft
  rw [listed, List.map_map, List.map_map]
  refine List.map_congr_left fun p member => ?_
  simp only [Function.comp_apply, carried p member, Option.bind_some]
  rfl

end IdentityCache

end IdentityMap
