import Mathlib.Data.List.Count
import IdentityMap.Proofs.Cache.Batch
/-!
# The representation of a cache

A cache changes in seven ways, which `Use` lists. Whatever a new cache has been used for, its
instances stand under the keys of their records, each key has an instance of its own, and the lists
of keys and of instances run by key.

How often an instance was revised can be told from the uses alone: `tally` counts the records that
were merged under a key since the key last left the cache, and never looks at a cache. The count
includes the record that made the instance, and merges that changed nothing.
-/

namespace IdentityMap.IdentityCache

/-- One use of a cache that may change it. -/
inductive Use
  | put (r : Record)
  | putAll (records : List Record)
  | reconcile (records : List Record)
  | remove (key : EntityKey)
  | removeAll (keys : List EntityKey)
  | clear
  | markSynced (synced : Bool)

/-- The cache after a use. One that is refused leaves the cache as it is. -/
def apply (c : IdentityCache) : Use → IdentityCache
  | .put r =>
    match c.put r with
    | .ok (_, c') => c'
    | .error _ => c
  | .putAll records =>
    match c.putAll records with
    | .ok (_, c') => c'
    | .error _ => c
  | .reconcile records =>
    match c.reconcile records with
    | .ok (_, c') => c'
    | .error _ => c
  | .remove key => (c.remove key).2
  | .removeAll keys => (IdentityCache.removeAll keys c).2
  | .clear => c.clear.2
  | .markSynced synced => c.markSynced synced

/-- The cache of a type after some uses. -/
def after (t : EntityType) (uses : List Use) : IdentityCache := uses.foldl apply (.new t)

/-- The number of records merged under a key since it last left the cache, once there is one more
use. Records count only if all that came together have keys. -/
def tallyNext (t : EntityType) (key : EntityKey) (count : Nat) : Use → Nat
  | .put r => if t.keyOf? r = some key then count + 1 else count
  | .putAll records =>
    match records.mapM t.keyOf? with
    | some keys => count + keys.count key
    | none => count
  | .reconcile records =>
    match records.mapM t.keyOf? with
    | some keys => if key ∈ keys then count + keys.count key else 0
    | none => count
  | .remove k => if key = k then 0 else count
  | .removeAll keys => if key ∈ keys then 0 else count
  | .clear => 0
  | .markSynced _ => count

/-- The number of records that the uses merged under a key since it last left the cache. -/
def tally (t : EntityType) (uses : List Use) (key : EntityKey) : Nat :=
  uses.foldl (tallyNext t key) 0

variable {c : IdentityCache}

/-! ### Records with their keys -/

theorem mapM_keyOf?_of_ok {records : List Record} {pairs : List (EntityKey × Record)}
    (h : c.keyed records = .ok pairs) :
    records.mapM c.entityType.keyOf? = some (pairs.map (·.1)) := by
  obtain ⟨rfl, carried⟩ := keyed_eq_ok h
  clear h
  induction pairs with
  | nil => rfl
  | cons p rest ih =>
    have others := ih fun q member => carried q (List.mem_cons_of_mem _ member)
    rw [List.map_cons, List.mapM_cons, carried p List.mem_cons_self, others]
    rfl

theorem mapM_keyOf?_of_error {records : List Record} {e : Error}
    (h : c.keyed records = .error e) : records.mapM c.entityType.keyOf? = none := by
  induction records generalizing e with
  | nil => cases h
  | cons r rest ih =>
    rw [List.mapM_cons]
    cases carries : c.entityType.keyOf? r with
    | none => rfl
    | some key =>
      rw [keyed, requireKey_eq_ok.2 carries] at h
      cases others : c.keyed rest with
      | ok pairs => simp [others, Except.map] at h
      | error e' =>
        rw [ih others]
        rfl

/-! ### Uses are made of steps -/

theorem steps_apply (c : IdentityCache) (use : Use) : Steps c (c.apply use) := by
  cases use with
  | put r =>
    cases carries : c.requireKey r with
    | error e =>
      simp only [apply, put, carries, Except.map]
      exact .refl c
    | ok key =>
      simp only [apply, put, carries, Except.map]
      exact .single (.put (requireKey_eq_ok.1 carries))
  | putAll records =>
    cases keyed : c.keyed records with
    | error e =>
      simp only [apply, putAll, keyed, Except.map]
      exact .refl c
    | ok pairs =>
      simp only [apply, putAll, keyed, Except.map]
      exact steps_putAllKeyed (keyed_eq_ok keyed).2
  | reconcile records =>
    cases keyed : c.keyed records with
    | error e =>
      simp only [apply, reconcile, keyed, Except.map]
      exact .refl c
    | ok pairs =>
      simp only [apply, reconcile, keyed, Except.map]
      refine (steps_removeAll _ c).trans ((steps_putAllKeyed ?_).trans (.single (.mark true)))
      rw [removeAll_entityType]
      exact (keyed_eq_ok keyed).2
  | remove key => exact .single (.remove key)
  | removeAll keys => exact steps_removeAll keys c
  | clear => exact steps_removeAll c.keys c
  | markSynced synced => exact .single (.mark synced)

theorem steps_after (t : EntityType) (uses : List Use) : Steps (.new t) (after t uses) := by
  have run : ∀ c : IdentityCache, Steps c (uses.foldl apply c) := by
    induction uses with
    | nil => exact .refl
    | cons use rest ih => exact fun c => (steps_apply c use).trans (ih _)
  exact run _

/-! ### Counting merges -/

/-- The number of records that the instance of a key has held, and zero without an instance. -/
def held (c : IdentityCache) (key : EntityKey) : Nat :=
  match c.get? key with
  | some i => i.revision + 1
  | none => 0

theorem held_putKeyed (c : IdentityCache) (k : EntityKey) (r : Record) (key : EntityKey) :
    (c.putKeyed k r).2.held key = if k = key then c.held key + 1 else c.held key := by
  by_cases same : k = key
  · subst same
    unfold held
    rw [get?_putKeyed_self, if_pos rfl]
    cases found : c.get? k with
    | none => simp [instanceAfter_of_none found]
    | some i => simp [instanceAfter_of_get? found, Instance.replace]
  · rw [if_neg same, held, get?_putKeyed_of_ne c r same, held]

theorem held_putAllKeyed (pairs : List (EntityKey × Record)) (c : IdentityCache) (key : EntityKey) :
    (putAllKeyed pairs c).2.held key = c.held key + (pairs.map (·.1)).count key := by
  induction pairs generalizing c with
  | nil => rfl
  | cons p rest ih =>
    rw [putAllKeyed_cons, ih, held_putKeyed, List.map_cons, List.count_cons]
    by_cases same : p.1 = key
    · simp only [same, if_true, beq_self_eq_true]
      omega
    · simp [same]

theorem held_removeAll (keys : List EntityKey) (c : IdentityCache) (key : EntityKey) :
    (removeAll keys c).2.held key = if key ∈ keys then 0 else c.held key := by
  unfold held
  rw [get?_removeAll]
  by_cases listed : key ∈ keys <;> simp [listed]

theorem held_of_not_mem {key : EntityKey} (absent : key ∉ c.keys) : c.held key = 0 := by
  unfold held
  cases found : c.get? key with
  | none => rfl
  | some i => exact absurd (OrderedMap.mem_keys_iff.2 ⟨i, found⟩) absent

/-- One use moves the count as the uses alone tell. -/
theorem held_apply (c : IdentityCache) (key : EntityKey) (use : Use) :
    (c.apply use).held key = tallyNext c.entityType key (c.held key) use := by
  cases use with
  | put r =>
    cases carries : c.entityType.keyOf? r with
    | none => simp [apply, put, requireKey, tallyNext, carries, Except.map]
    | some k => simp [apply, put, requireKey_eq_ok.2 carries, tallyNext, carries, Except.map,
        held_putKeyed]
  | putAll records =>
    cases keyed : c.keyed records with
    | error e => simp [apply, putAll, keyed, tallyNext, mapM_keyOf?_of_error keyed, Except.map]
    | ok pairs =>
      simp [apply, putAll, keyed, tallyNext, mapM_keyOf?_of_ok keyed, Except.map, held_putAllKeyed]
  | reconcile records =>
    cases keyed : c.keyed records with
    | error e => simp [apply, reconcile, keyed, tallyNext, mapM_keyOf?_of_error keyed, Except.map]
    | ok pairs =>
      have marked : ∀ c : IdentityCache, (c.markSynced true).held key = c.held key := fun _ => rfl
      simp only [apply, reconcile, keyed, tallyNext, mapM_keyOf?_of_ok keyed, Except.map, marked,
        held_putAllKeyed, held_removeAll]
      by_cases live : key ∈ pairs.map (·.1)
      · simp [live]
      · by_cases cached : key ∈ c.keys
        · simp [live, cached, List.count_eq_zero.2 live]
        · simp [live, held_of_not_mem cached, List.count_eq_zero.2 live]
  | remove k =>
    have removed := held_removeAll [k] c key
    simp only [List.mem_singleton] at removed
    exact removed
  | removeAll keys => exact held_removeAll keys c key
  | clear =>
    refine (held_removeAll c.keys c key).trans ?_
    by_cases cached : key ∈ c.keys
    · rw [if_pos cached]
      rfl
    · rw [if_neg cached, held_of_not_mem cached]
      rfl
  | markSynced synced => rfl

theorem held_after (t : EntityType) (uses : List Use) (key : EntityKey) :
    (after t uses).held key = tally t uses key := by
  have run : ∀ c : IdentityCache, c.entityType = t →
      (uses.foldl apply c).held key = uses.foldl (tallyNext t key) (c.held key) := by
    induction uses with
    | nil => exact fun _ _ => rfl
    | cons use rest ih =>
      rintro c rfl
      rw [List.foldl_cons, List.foldl_cons, ← held_apply]
      exact ih _ (steps_apply c use).entityType
  exact run _ rfl

/-! ### The invariant -/

/-- What holds of a cache of the type `t`, where `count` tells how many records were merged under a
key since it last left the cache. -/
structure Represents (t : EntityType) (count : EntityKey → Nat) (c : IdentityCache) : Prop where
  entityType : c.entityType = t
  keyed : ∀ key i, c.get? key = some i → i.key = key ∧ t.keyOf? i.record = some key
  distinct : ∀ key key' i i', c.get? key = some i → c.get? key' = some i' → key ≠ key' →
    i.serial ≠ i'.serial
  keys : ∀ key, key ∈ c.keys ↔ ∃ i, c.get? key = some i
  ascending : c.keys.Pairwise fun key key' => compare key key' = .lt
  instances : c.instances = c.keys.filterMap fun key => (c.get? key).map c.handleOf
  instanceKeys : c.instances.map (·.key) = c.keys
  size : c.size = c.keys.length
  revised : ∀ key i, c.get? key = some i → count key = i.revision + 1
  missing : ∀ key, c.get? key = none → count key = 0
  put : ∀ key i r, c.get? key = some i → t.keyOf? r = some key → ∃ c',
    c.put r = .ok ((c.handleOf i, if Record.same r i.record then .unchanged
      else .updated i.record), c') ∧ c'.get? key = some (i.replace r)

/-- The instances of a cache, looked up key by key. -/
theorem instances_eq (c : IdentityCache) :
    c.instances = c.keys.filterMap fun key => (c.get? key).map c.handleOf := by
  unfold instances keys OrderedMap.values OrderedMap.keys
  rw [List.map_map, List.filterMap_map, ← List.filterMap_eq_map]
  refine List.filterMap_congr fun e listed => ?_
  have found : c.get? e.1 = some e.2 := (c.entries.mem_entries_iff e).1 listed
  simp [found]

theorem Sound.instances_keys (sound : c.Sound) : c.instances.map (·.key) = c.keys := by
  unfold instances keys OrderedMap.values OrderedMap.keys
  rw [List.map_map, List.map_map]
  refine List.map_congr_left fun e listed => ?_
  have found : c.get? e.1 = some e.2 := (c.entries.mem_entries_iff e).1 listed
  exact (sound.keyed e.1 e.2 found).1

theorem put_cached {key : EntityKey} {i : Instance} {r : Record} (found : c.get? key = some i)
    (carries : c.entityType.keyOf? r = some key) :
    c.put r = .ok ((c.handleOf i, if Record.same r i.record then .unchanged
      else .updated i.record), (c.putKeyed key r).2) := by
  have merged : (c.putKeyed key r).1 = (c.handleOf i, if Record.same r i.record then .unchanged
      else .updated i.record) := by
    rw [putKeyed_fst, found, instanceAfter_of_get? found]
    rfl
  rw [put, requireKey_eq_ok.2 carries, ← merged]
  rfl

/-- **Representation.** Whatever a new cache has been used for, it holds every instance under the
key of its record and no instance twice, lists keys and instances by key, and has revised each
instance once for every record merged after the first one. A put of a cached key answers with what
it changed. -/
theorem represents_after (t : EntityType) (uses : List Use) :
    (after t uses).Represents t (tally t uses) := by
  have steps := steps_after t uses
  have sameType : (after t uses).entityType = t := steps.entityType
  have sound : (after t uses).Sound := (sound_new t).steps steps
  refine { entityType := sameType, keyed := ?_, distinct := ?_,
           keys := fun key => OrderedMap.mem_keys_iff,
           ascending := List.pairwise_map.2 (after t uses).entries.ascending,
           instances := instances_eq _, instanceKeys := sound.instances_keys,
           size := (List.length_map _).symm, revised := ?_, missing := ?_, put := ?_ }
  · intro key i found
    rw [← sameType]
    exact sound.keyed key i found
  · intro key key' i i' found found' other same
    exact other (sound.oneKey key key' i i' found found' same)
  · intro key i found
    rw [← held_after, held, found]
  · intro key missing
    rw [← held_after, held, missing]
  · intro key i r found carries
    rw [← sameType] at carries
    refine ⟨_, put_cached found carries, ?_⟩
    rw [get?_putKeyed_self, instanceAfter_of_get? found]

end IdentityMap.IdentityCache
