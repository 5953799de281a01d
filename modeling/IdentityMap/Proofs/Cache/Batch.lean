import IdentityMap.Cache.Merging
import Mathlib.Data.List.Basic
import IdentityMap.Proofs.Cache.Lineage
/-!
# Putting and removing whole lists

What happens to a cache when records are put and keys are removed one after the other. Puts keep
every instance that is cached; removals retire instances unchanged. Where no key is put twice, the
outcomes and the events of a batch are read off the cache as it was before.
-/

namespace IdentityMap.IdentityCache

variable {c c' : IdentityCache}

/-! ### Records with their keys -/

/-- Every record carries the key beside it. -/
def Carried (t : EntityType) (pairs : List (EntityKey × Record)) : Prop :=
  ∀ p ∈ pairs, t.keyOf? p.2 = some p.1

theorem requireKey_eq_ok {r : Record} {key : EntityKey} :
    c.requireKey r = .ok key ↔ c.entityType.keyOf? r = some key := by
  unfold requireKey
  split <;> simp [*]

theorem keyed_eq_ok {records : List Record} {pairs : List (EntityKey × Record)}
    (h : c.keyed records = .ok pairs) :
    pairs.map (·.2) = records ∧ Carried c.entityType pairs := by
  induction records generalizing pairs with
  | nil =>
    cases h
    exact ⟨rfl, by simp [Carried]⟩
  | cons r rest ih =>
    unfold keyed at h
    split at h
    · cases h
    · rename_i key carries
      cases others : c.keyed rest with
      | error e => simp [others, Except.map] at h
      | ok tail =>
        simp only [others, Except.map, Except.ok.injEq] at h
        subst h
        obtain ⟨same, carried⟩ := ih others
        refine ⟨by simp [same], ?_⟩
        intro p member
        rcases List.mem_cons.1 member with rfl | member
        · exact requireKey_eq_ok.1 carries
        · exact carried p member

theorem keyed_ok_of_keys {records : List Record}
    (keys : ∀ r ∈ records, ∃ key, c.entityType.keyOf? r = some key) :
    ∃ pairs, c.keyed records = .ok pairs := by
  induction records with
  | nil => exact ⟨[], rfl⟩
  | cons r rest ih =>
    obtain ⟨key, carries⟩ := keys r List.mem_cons_self
    obtain ⟨pairs, others⟩ := ih fun s member => keys s (List.mem_cons_of_mem _ member)
    exact ⟨(key, r) :: pairs, by simp [keyed, requireKey_eq_ok.2 carries, others, Except.map]⟩

theorem keyed_of_carried {pairs : List (EntityKey × Record)}
    (carried : Carried c.entityType pairs) : c.keyed (pairs.map (·.2)) = .ok pairs := by
  induction pairs with
  | nil => rfl
  | cons p rest ih =>
    have own := requireKey_eq_ok.2 (carried p List.mem_cons_self)
    have others := ih fun q member => carried q (List.mem_cons_of_mem _ member)
    simp [keyed, own, others, Except.map]

/-! ### Putting -/

/-- Every instance that `c` caches is cached by `c'` under the same key. -/
def Kept (c c' : IdentityCache) : Prop :=
  ∀ key i, c.get? key = some i → ∃ i', c'.get? key = some i' ∧ c'.handleOf i' = c.handleOf i

theorem Kept.refl (c : IdentityCache) : Kept c c := fun _ i found => ⟨i, found, rfl⟩

theorem Kept.trans {c₁ : IdentityCache} (first : Kept c c₁) (later : Kept c₁ c') : Kept c c' := by
  intro key i found
  obtain ⟨i₁, found₁, same₁⟩ := first key i found
  obtain ⟨i', found', same'⟩ := later key i₁ found₁
  exact ⟨i', found', same'.trans same₁⟩

theorem kept_putKeyed (c : IdentityCache) (key : EntityKey) (r : Record) :
    Kept c (c.putKeyed key r).2 := by
  intro k i found
  by_cases same : key = k
  · subst same
    refine ⟨_, get?_putKeyed_self c key r, ?_⟩
    rw [instanceAfter_of_get? found]
    simp [handleOf, typeName, Instance.replace]
  · exact ⟨i, (get?_putKeyed_of_ne c r same).trans found, by simp [handleOf, typeName]⟩

/-- The instance of a handle is the one that is cached under the handle's key. -/
def Holds (c : IdentityCache) (h : Handle) : Prop :=
  ∃ i, c.get? h.key = some i ∧ c.handleOf i = h

theorem Holds.kept {h : Handle} (holds : c.Holds h) (kept : Kept c c') : c'.Holds h := by
  obtain ⟨i, found, rfl⟩ := holds
  exact kept _ i found

theorem Sound.holds_handleOf (sound : c.Sound) {key : EntityKey} {i : Instance}
    (found : c.get? key = some i) : c.Holds (c.handleOf i) :=
  ⟨i, by rw [handleOf, (sound.keyed key i found).1]; exact found, rfl⟩

theorem putAllKeyed_cons (key : EntityKey) (r : Record) (rest : List (EntityKey × Record))
    (c : IdentityCache) :
    putAllKeyed ((key, r) :: rest) c =
      ((c.putKeyed key r).1 :: (putAllKeyed rest (c.putKeyed key r).2).1,
        (putAllKeyed rest (c.putKeyed key r).2).2) := rfl

@[simp] theorem putAllKeyed_entityType (pairs : List (EntityKey × Record)) (c : IdentityCache) :
    (putAllKeyed pairs c).2.entityType = c.entityType := by
  induction pairs generalizing c with
  | nil => rfl
  | cons p rest ih => rw [putAllKeyed_cons, ih, putKeyed_entityType]

@[simp] theorem putAllKeyed_synced (pairs : List (EntityKey × Record)) (c : IdentityCache) :
    (putAllKeyed pairs c).2.synced = c.synced := by
  induction pairs generalizing c with
  | nil => rfl
  | cons p rest ih => rw [putAllKeyed_cons, ih, putKeyed_synced]

theorem kept_putAllKeyed (pairs : List (EntityKey × Record)) (c : IdentityCache) :
    Kept c (putAllKeyed pairs c).2 := by
  induction pairs generalizing c with
  | nil => exact .refl c
  | cons p rest ih => exact (kept_putKeyed c p.1 p.2).trans (ih _)

theorem steps_putAllKeyed {pairs : List (EntityKey × Record)}
    (carried : Carried c.entityType pairs) : Steps c (putAllKeyed pairs c).2 := by
  induction pairs generalizing c with
  | nil => exact .refl c
  | cons p rest ih =>
    refine .head (.put (carried p List.mem_cons_self)) (ih fun q member => ?_)
    rw [putKeyed_entityType]
    exact carried q (List.mem_cons_of_mem _ member)

theorem get?_putAllKeyed_of_not_mem {pairs : List (EntityKey × Record)} {k : EntityKey}
    (absent : k ∉ pairs.map (·.1)) : (putAllKeyed pairs c).2.get? k = c.get? k := by
  induction pairs generalizing c with
  | nil => rfl
  | cons p rest ih =>
    simp only [List.map_cons, List.mem_cons, not_or] at absent
    rw [putAllKeyed_cons]
    exact (ih absent.2).trans (get?_putKeyed_of_ne c p.2 (Ne.symm absent.1))

theorem keys_putAllKeyed (sound : c.Sound) {pairs : List (EntityKey × Record)}
    (carried : Carried c.entityType pairs) :
    (putAllKeyed pairs c).1.map (·.1.key) = pairs.map (·.1) := by
  induction pairs generalizing c with
  | nil => rfl
  | cons p rest ih =>
    have others := ih (sound.putKeyed (carried p List.mem_cons_self)) fun q member => by
      rw [putKeyed_entityType]
      exact carried q (List.mem_cons_of_mem _ member)
    rw [putAllKeyed_cons, List.map_cons, List.map_cons, others, putKeyed_fst]
    simp [handleOf, sound.instanceAfter_key]

/-- What a batch of puts answers with is cached afterwards. -/
theorem holds_putAllKeyed (sound : c.Sound) {pairs : List (EntityKey × Record)}
    (carried : Carried c.entityType pairs) :
    ∀ m ∈ (putAllKeyed pairs c).1, (putAllKeyed pairs c).2.Holds m.1 := by
  induction pairs generalizing c with
  | nil => simp [putAllKeyed]
  | cons p rest ih =>
    have next := sound.putKeyed (carried p List.mem_cons_self)
    intro m member
    rw [putAllKeyed_cons] at member ⊢
    rcases List.mem_cons.1 member with rfl | member
    · have held : (c.putKeyed p.1 p.2).2.Holds (c.putKeyed p.1 p.2).1.1 := by
        have := next.holds_handleOf (get?_putKeyed_self c p.1 p.2)
        simpa [putKeyed_fst, handleOf, typeName] using this
      exact held.kept (kept_putAllKeyed rest _)
    · refine ih next (fun q inRest => ?_) m member
      rw [putKeyed_entityType]
      exact carried q (List.mem_cons_of_mem _ inRest)

/-- Every key that is put is cached afterwards. -/
theorem get?_putAllKeyed_of_mem {pairs : List (EntityKey × Record)} {k : EntityKey}
    (present : k ∈ pairs.map (·.1)) : ∃ i, (putAllKeyed pairs c).2.get? k = some i := by
  induction pairs generalizing c with
  | nil => cases present
  | cons p rest ih =>
    rw [putAllKeyed_cons]
    by_cases later : k ∈ rest.map (·.1)
    · exact ih later
    · have same : k = p.1 := by simpa [later] using present
      rw [get?_putAllKeyed_of_not_mem later, same]
      exact ⟨_, get?_putKeyed_self c p.1 p.2⟩

/-- Where no key is put twice, every key holds its record afterwards, in an instance that differs
from what was cached before at least in its revision. -/
theorem record_putAllKeyed {pairs : List (EntityKey × Record)} (once : (pairs.map (·.1)).Nodup)
    {p : EntityKey × Record} (member : p ∈ pairs) :
    ∃ i, (putAllKeyed pairs c).2.get? p.1 = some i ∧ i.record = p.2 ∧ c.get? p.1 ≠ some i := by
  induction pairs generalizing c with
  | nil => cases member
  | cons q rest ih =>
    simp only [List.map_cons, List.nodup_cons] at once
    rw [putAllKeyed_cons]
    rcases List.mem_cons.1 member with rfl | member
    · refine ⟨c.instanceAfter p.1 p.2, ?_, instanceAfter_record c p.1 p.2, ?_⟩
      · rw [get?_putAllKeyed_of_not_mem once.1, get?_putKeyed_self]
      · intro found
        have revised := instanceAfter_of_get? (r := p.2) found
        have := congrArg Instance.revision revised
        simp [Instance.replace] at this
    · obtain ⟨i, found, same, touched⟩ := ih (c := (c.putKeyed q.1 q.2).2) once.2 member
      have other : q.1 ≠ p.1 := fun equal => once.1 (equal ▸ List.mem_map_of_mem member)
      rw [get?_putKeyed_of_ne c q.2 other] at touched
      exact ⟨i, found, same, touched⟩

/-- Whatever is cached after a batch of puts holds a record of the batch or was cached before. -/
theorem origin_putAllKeyed {pairs : List (EntityKey × Record)} {k : EntityKey} {i : Instance}
    (found : (putAllKeyed pairs c).2.get? k = some i) :
    (k, i.record) ∈ pairs ∨ (k ∉ pairs.map (·.1) ∧ c.get? k = some i) := by
  induction pairs generalizing c with
  | nil => exact .inr ⟨List.not_mem_nil, found⟩
  | cons p rest ih =>
    rw [putAllKeyed_cons] at found
    rcases ih found with member | ⟨absent, before⟩
    · exact .inl (List.mem_cons_of_mem _ member)
    · by_cases same : p.1 = k
      · subst same
        rw [get?_putKeyed_self] at before
        cases before
        exact .inl (by simp)
      · rw [get?_putKeyed_of_ne c p.2 same] at before
        exact .inr ⟨by simpa [Ne.symm same] using absent, before⟩

/-! ### Removing -/

theorem removeAll_cons (key : EntityKey) (rest : List EntityKey) (c : IdentityCache) :
    removeAll (key :: rest) c =
      ((c.remove key).1.toList ++ (removeAll rest (c.remove key).2).1,
        (removeAll rest (c.remove key).2).2) := rfl

@[simp] theorem removeAll_entityType (keys : List EntityKey) (c : IdentityCache) :
    (removeAll keys c).2.entityType = c.entityType := by
  induction keys generalizing c with
  | nil => rfl
  | cons key rest ih => rw [removeAll_cons, ih, remove_entityType]

@[simp] theorem removeAll_synced (keys : List EntityKey) (c : IdentityCache) :
    (removeAll keys c).2.synced = c.synced := by
  induction keys generalizing c with
  | nil => rfl
  | cons key rest ih => rw [removeAll_cons, ih, remove_synced]

theorem steps_removeAll (keys : List EntityKey) (c : IdentityCache) :
    Steps c (removeAll keys c).2 := by
  induction keys generalizing c with
  | nil => exact .refl c
  | cons key rest ih => exact .head (.remove key) (ih _)

theorem get?_removeAll (keys : List EntityKey) (c : IdentityCache) (k : EntityKey) :
    (removeAll keys c).2.get? k = if k ∈ keys then none else c.get? k := by
  induction keys generalizing c with
  | nil => rfl
  | cons key rest ih =>
    rw [removeAll_cons, ih]
    by_cases same : key = k
    · subst same
      simp
    · rw [get?_remove_of_ne c same]
      simp [Ne.symm same]

/-- A cached instance whose key is removed is retired as it is. -/
theorem retired_removeAll {keys : List EntityKey} {k : EntityKey} {i : Instance} (listed : k ∈ keys)
    (found : c.get? k = some i) : i ∈ (removeAll keys c).2.retired := by
  induction keys generalizing c with
  | nil => cases listed
  | cons key rest ih =>
    rw [removeAll_cons]
    by_cases same : key = k
    · subst same
      have stays := (steps_removeAll rest (c.remove key).2).follows.retired
      refine stays.subset ?_
      rw [remove_of_get? found]
      exact List.mem_cons_self
    · have inRest : k ∈ rest := by simpa [Ne.symm same] using listed
      exact ih inRest ((get?_remove_of_ne c same).trans found)

theorem removed_removeAll {keys : List EntityKey} (once : keys.Nodup) :
    (removeAll keys c).1 = keys.filterMap fun key => (c.get? key).map c.handleOf := by
  induction keys generalizing c with
  | nil => rfl
  | cons key rest ih =>
    obtain ⟨absent, onceRest⟩ := List.nodup_cons.1 once
    have same : ∀ k ∈ rest, (((c.remove key).2.get? k).map (c.remove key).2.handleOf)
        = (c.get? k).map c.handleOf := by
      intro k listed
      have other : key ≠ k := fun equal => absent (equal ▸ listed)
      rw [get?_remove_of_ne c other]
      congr 1
      funext i
      simp [handleOf, typeName]
    rw [removeAll_cons, ih onceRest, List.filterMap_congr same]
    cases found : c.get? key with
    | none => simp [remove_of_none found, found]
    | some i => simp [remove_of_get? found, found]

/-! ### The events of a batch -/

/-- The change that putting a record makes to what was cached. -/
def putChange? (before : Option Instance) (r : Record) : Option Change :=
  match before with
  | none => some (.created r)
  | some i => if Record.same r i.record then none else some (.updated i.record r)

theorem putEvent?_eq {h : Handle} {i : Instance} (before : Option Instance)
    (reads : c.read? h = some i) :
    c.putEvent? h (outcomeAfter before i.record) =
      (putChange? before i.record).map fun change => ⟨c.entityType, h.key, change⟩ := by
  unfold putEvent? outcomeAfter putChange?
  cases before with
  | none => simp [reads]
  | some j =>
    by_cases same : Record.same i.record j.record = true
    · simp [reads, same]
    · simp [reads, same]

/-- The events of putting records under different keys, shown by a cache `c'` that has not changed
the records again. -/
theorem putEvents_putAllKeyed (sound : c.Sound) {pairs : List (EntityKey × Record)}
    (carried : Carried c.entityType pairs) (once : (pairs.map (·.1)).Nodup)
    (sameType : c'.entityType = c.entityType)
    (shown : ∀ k ∈ pairs.map (·.1), c'.get? k = (putAllKeyed pairs c).2.get? k) :
    c'.putEvents (putAllKeyed pairs c).1 = pairs.filterMap fun p =>
      (putChange? (c.get? p.1) p.2).map fun change => ⟨c.entityType, p.1, change⟩ := by
  induction pairs generalizing c with
  | nil => rfl
  | cons p rest ih =>
    simp only [List.map_cons, List.nodup_cons] at once
    have next := sound.putKeyed (carried p List.mem_cons_self)
    have others := ih next
      (fun q member => by
        rw [putKeyed_entityType]
        exact carried q (List.mem_cons_of_mem _ member))
      once.2 (by rw [putKeyed_entityType]; exact sameType)
      (fun k listed => shown k (List.mem_cons_of_mem _ listed))
    have before : ∀ q ∈ rest, (c.putKeyed p.1 p.2).2.get? q.1 = c.get? q.1 := fun q member =>
      get?_putKeyed_of_ne c p.2 fun equal => once.1 (equal ▸ List.mem_map_of_mem member)
    have cached : c'.get? p.1 = some (c.instanceAfter p.1 p.2) := by
      rw [shown p.1 List.mem_cons_self, putAllKeyed_cons, get?_putAllKeyed_of_not_mem once.1,
        get?_putKeyed_self]
    have keyed := sound.instanceAfter_key p.1 p.2
    have reads : c'.read? (c.handleOf (c.instanceAfter p.1 p.2))
        = some (c.instanceAfter p.1 p.2) :=
      read?_of_cached (by rw [handleOf, keyed]; exact cached) rfl
    have head := putEvent?_eq (c.get? p.1) reads
    rw [instanceAfter_record, sameType] at head
    rw [putAllKeyed_cons]
    unfold putEvents at others ⊢
    rw [List.filterMap_cons, List.filterMap_cons, others, putKeyed_fst, head, putKeyed_entityType]
    rw [List.filterMap_congr fun q member => by rw [before q member]]
    simp [handleOf, keyed]

/-- The events of removing different keys, shown by a cache `c'` that has not forgotten what was
retired. -/
theorem removalEvents_removeAll (sound : c.Sound) {keys : List EntityKey} (once : keys.Nodup)
    (shows : c'.Sound) (later : Follows (removeAll keys c).2 c') :
    (removeAll keys c).1.map c'.removalEvent = keys.filterMap fun key =>
      (c.get? key).map fun i => ⟨c.entityType, key, .deleted (some i.record)⟩ := by
  rw [removed_removeAll once, List.map_filterMap]
  apply List.filterMap_congr
  intro key listed
  cases found : c.get? key with
  | none => rfl
  | some i =>
    have reads : c'.read? (c.handleOf i) = some i :=
      shows.read?_of_retired (later.retired.subset (retired_removeAll listed found)) rfl
    have event : c'.removalEvent (c.handleOf i)
        = ⟨c.entityType, key, .deleted (some i.record)⟩ := by
      unfold removalEvent
      rw [reads, later.entityType, removeAll_entityType, handleOf, (sound.keyed key i found).1]
      rfl
    simp [event]

/-- The event of letting one key go. -/
theorem evict_events (sound : c.Sound) (key : EntityKey) :
    (c.evict key).1.2 =
      (c.get? key).toList.map fun i => ⟨c.entityType, key, .deleted (some i.record)⟩ := by
  have single : removeAll [key] c = ((c.remove key).1.toList, (c.remove key).2) := by
    rw [removeAll_cons]
    simp [removeAll]
  have later : Follows (removeAll [key] c).2 (c.remove key).2 := by
    rw [single]
    exact .refl _
  have events := removalEvents_removeAll sound (by simp : [key].Nodup) (sound.remove key) later
  rw [single] at events
  show (c.remove key).1.toList.map (c.remove key).2.removalEvent = _
  rw [events]
  cases found : c.get? key <;> simp [found]

end IdentityMap.IdentityCache
