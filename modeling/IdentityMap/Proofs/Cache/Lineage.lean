import IdentityMap.Proofs.Cache.Step
/-!
# Instances through the history of a cache

`IdentityCache.Sound` ties the entries of a cache to all the instances that it ever handed out: each
of them, told apart by its serial number, is cached under its own key or retired, and never both.
`IdentityCache.Follows` compares a cache with an earlier state of it. Retired instances stay as they
were, an instance leaves the entries only by retiring, and whatever is cached anew is a new
instance.
-/

namespace IdentityMap.IdentityCache

/-- Every instance stands under the key that its record carries and in one place only. -/
structure Sound (c : IdentityCache) : Prop where
  keyed : ∀ key i, c.get? key = some i → i.key = key ∧ c.entityType.keyOf? i.record = some key
  cachedBelow : ∀ key i, c.get? key = some i → i.serial < c.issued
  oneKey : ∀ key key' i i', c.get? key = some i → c.get? key' = some i' →
    i.serial = i'.serial → key = key'
  retiredBelow : ∀ j ∈ c.retired, j.serial < c.issued
  retiredOnce : c.retired.Pairwise fun i j => i.serial ≠ j.serial
  apart : ∀ key i, c.get? key = some i → ∀ j ∈ c.retired, j.serial ≠ i.serial

variable {c c' : IdentityCache}

theorem sound_new (t : EntityType) : (IdentityCache.new t).Sound where
  keyed _ _ found := by cases found
  cachedBelow _ _ found := by cases found
  oneKey _ _ _ _ found := by cases found
  retiredBelow _ member := by cases member
  retiredOnce := .nil
  apart _ _ found := by cases found

/-! ### Serial numbers after a put -/

theorem instanceAfter_of_get? {key : EntityKey} {r : Record} {i : Instance}
    (found : c.get? key = some i) : c.instanceAfter key r = i.replace r := by
  simp [instanceAfter, found]

theorem instanceAfter_of_none {key : EntityKey} {r : Record} (missing : c.get? key = none) :
    c.instanceAfter key r = ⟨c.issued, key, r, 0⟩ := by
  simp [instanceAfter, missing]

theorem Sound.instanceAfter_key (sound : c.Sound) (key : EntityKey) (r : Record) :
    (c.instanceAfter key r).key = key := by
  cases found : c.get? key with
  | none => rw [instanceAfter_of_none found]
  | some i =>
    rw [instanceAfter_of_get? found]
    exact (sound.keyed key i found).1

/-- The instance after a put is either the one before or one that was never handed out. -/
theorem instanceAfter_serial (c : IdentityCache) (key : EntityKey) (r : Record) :
    (∃ i, c.get? key = some i ∧ (c.instanceAfter key r).serial = i.serial)
      ∨ (c.get? key = none ∧ (c.instanceAfter key r).serial = c.issued) := by
  cases found : c.get? key with
  | none => exact .inr ⟨rfl, by rw [instanceAfter_of_none found]⟩
  | some i => exact .inl ⟨i, rfl, by rw [instanceAfter_of_get? found]; rfl⟩

theorem issued_le_putKeyed (c : IdentityCache) (key : EntityKey) (r : Record) :
    c.issued ≤ (c.putKeyed key r).2.issued := by
  rw [putKeyed_issued]
  split <;> omega

theorem Sound.instanceAfter_below (sound : c.Sound) (key : EntityKey) (r : Record) :
    (c.instanceAfter key r).serial < (c.putKeyed key r).2.issued := by
  rcases instanceAfter_serial c key r with ⟨i, found, same⟩ | ⟨missing, same⟩
  · have := sound.cachedBelow key i found
    have := c.issued_le_putKeyed key r
    omega
  · rw [same, putKeyed_issued]
    simp [missing]

/-- Under another key there is never the instance that a put leaves behind. -/
theorem Sound.instanceAfter_other (sound : c.Sound) {key k : EntityKey} {r : Record} {i : Instance}
    (other : key ≠ k) (found : c.get? k = some i) :
    (c.instanceAfter key r).serial ≠ i.serial := by
  rcases instanceAfter_serial c key r with ⟨i', found', same⟩ | ⟨_, same⟩
  · intro equal
    exact other (sound.oneKey key k i' i found' found (same.symm.trans equal))
  · have := sound.cachedBelow k i found
    omega

theorem Sound.instanceAfter_apart (sound : c.Sound) (key : EntityKey) (r : Record) {j : Instance}
    (member : j ∈ c.retired) : j.serial ≠ (c.instanceAfter key r).serial := by
  rcases instanceAfter_serial c key r with ⟨i, found, same⟩ | ⟨_, same⟩
  · rw [same]
    exact sound.apart key i found j member
  · have := sound.retiredBelow j member
    omega

/-! ### Every step keeps the instances sound -/

theorem Sound.putKeyed (sound : c.Sound) {key : EntityKey} {r : Record}
    (carries : c.entityType.keyOf? r = some key) : (c.putKeyed key r).2.Sound where
  keyed k i found := by
    by_cases same : key = k
    · subst same
      rw [get?_putKeyed_self] at found
      cases found
      rw [putKeyed_entityType, instanceAfter_record]
      exact ⟨sound.instanceAfter_key key r, carries⟩
    · rw [get?_putKeyed_of_ne c r same] at found
      rw [putKeyed_entityType]
      exact sound.keyed k i found
  cachedBelow k i found := by
    by_cases same : key = k
    · subst same
      rw [get?_putKeyed_self] at found
      cases found
      exact sound.instanceAfter_below key r
    · rw [get?_putKeyed_of_ne c r same] at found
      exact Nat.lt_of_lt_of_le (sound.cachedBelow k i found) (c.issued_le_putKeyed key r)
  oneKey k k' i i' found found' equal := by
    by_cases same : key = k <;> by_cases same' : key = k'
    · exact same.symm.trans same'
    · subst same
      rw [get?_putKeyed_self] at found
      rw [get?_putKeyed_of_ne c r same'] at found'
      cases found
      exact absurd equal (sound.instanceAfter_other same' found')
    · subst same'
      rw [get?_putKeyed_of_ne c r same] at found
      rw [get?_putKeyed_self] at found'
      cases found'
      exact absurd equal.symm (sound.instanceAfter_other same found)
    · rw [get?_putKeyed_of_ne c r same] at found
      rw [get?_putKeyed_of_ne c r same'] at found'
      exact sound.oneKey k k' i i' found found' equal
  retiredBelow j member := by
    rw [putKeyed_retired] at member
    exact Nat.lt_of_lt_of_le (sound.retiredBelow j member) (c.issued_le_putKeyed key r)
  retiredOnce := by
    rw [putKeyed_retired]
    exact sound.retiredOnce
  apart k i found j member := by
    rw [putKeyed_retired] at member
    by_cases same : key = k
    · subst same
      rw [get?_putKeyed_self] at found
      cases found
      exact sound.instanceAfter_apart key r member
    · rw [get?_putKeyed_of_ne c r same] at found
      exact sound.apart k i found j member

theorem get?_of_get?_remove {key k : EntityKey} {i : Instance}
    (found : (c.remove key).2.get? k = some i) : key ≠ k ∧ c.get? k = some i := by
  by_cases same : key = k
  · subst same
    rw [get?_remove_self] at found
    cases found
  · rw [get?_remove_of_ne c same] at found
    exact ⟨same, found⟩

theorem Sound.remove (sound : c.Sound) (key : EntityKey) : (c.remove key).2.Sound := by
  cases cached : c.get? key with
  | none =>
    rw [remove_of_none cached]
    exact sound
  | some gone =>
    have retired : (c.remove key).2.retired = gone :: c.retired := by rw [remove_of_get? cached]
    refine ⟨?_, ?_, ?_, ?_, ?_, ?_⟩
    · intro k i found
      rw [remove_entityType]
      exact sound.keyed k i (get?_of_get?_remove found).2
    · intro k i found
      rw [remove_issued]
      exact sound.cachedBelow k i (get?_of_get?_remove found).2
    · intro k k' i i' found found'
      exact sound.oneKey k k' i i' (get?_of_get?_remove found).2 (get?_of_get?_remove found').2
    · intro j member
      rw [remove_issued]
      rw [retired] at member
      rcases List.mem_cons.1 member with rfl | member
      · exact sound.cachedBelow key _ cached
      · exact sound.retiredBelow j member
    · rw [retired]
      exact List.pairwise_cons.2
        ⟨fun j member equal => sound.apart key gone cached j member equal.symm, sound.retiredOnce⟩
    · intro k i found j member equal
      obtain ⟨other, still⟩ := get?_of_get?_remove found
      rw [retired] at member
      rcases List.mem_cons.1 member with rfl | member
      · exact other (sound.oneKey key k _ i cached still equal)
      · exact sound.apart k i still j member equal

theorem Sound.step (sound : c.Sound) (step : Step c c') : c'.Sound := by
  cases step with
  | put carries => exact sound.putKeyed carries
  | remove key => exact sound.remove key
  | mark synced => exact ⟨sound.keyed, sound.cachedBelow, sound.oneKey, sound.retiredBelow,
      sound.retiredOnce, sound.apart⟩

theorem Sound.steps (sound : c.Sound) (steps : Steps c c') : c'.Sound :=
  steps.keeps sound fun step sound => Sound.step sound step

/-! ### Comparison with an earlier state -/

/-- The cache `c'` is a later state of `c`. -/
structure Follows (c c' : IdentityCache) : Prop where
  entityType : c'.entityType = c.entityType
  issued : c.issued ≤ c'.issued
  /-- What is retired stays retired, unchanged. -/
  retired : c.retired <:+ c'.retired
  /-- A cached instance stays under its key or retires. -/
  accounted : ∀ key i, c.get? key = some i →
    (∃ i', c'.get? key = some i' ∧ i'.serial = i.serial)
      ∨ ∃ i' ∈ c'.retired, i'.serial = i.serial
  /-- A cached instance is new or was cached under the same key. -/
  origin : ∀ key i', c'.get? key = some i' →
    c.issued ≤ i'.serial ∨ ∃ i, c.get? key = some i ∧ i.serial = i'.serial

namespace Follows

theorem refl (c : IdentityCache) : Follows c c where
  entityType := rfl
  issued := Nat.le_refl _
  retired := List.suffix_refl _
  accounted _ i found := .inl ⟨i, found, rfl⟩
  origin _ i found := .inr ⟨i, found, rfl⟩

theorem trans {c₁ : IdentityCache} (first : Follows c c₁) (later : Follows c₁ c') :
    Follows c c' where
  entityType := later.entityType.trans first.entityType
  issued := Nat.le_trans first.issued later.issued
  retired := first.retired.trans later.retired
  accounted key i found := by
    rcases first.accounted key i found with ⟨i₁, found₁, same₁⟩ | ⟨i₁, member, same₁⟩
    · rcases later.accounted key i₁ found₁ with ⟨i', found', same'⟩ | ⟨i', member', same'⟩
      · exact .inl ⟨i', found', same'.trans same₁⟩
      · exact .inr ⟨i', member', same'.trans same₁⟩
    · exact .inr ⟨i₁, later.retired.subset member, same₁⟩
  origin key i' found' := by
    rcases later.origin key i' found' with fresh | ⟨i₁, found₁, same₁⟩
    · exact .inl (Nat.le_trans first.issued fresh)
    · rcases first.origin key i₁ found₁ with fresh | ⟨i, found, same⟩
      · exact .inl (same₁ ▸ fresh)
      · exact .inr ⟨i, found, same.trans same₁⟩

end Follows

theorem follows_putKeyed (c : IdentityCache) (key : EntityKey) (r : Record) :
    Follows c (c.putKeyed key r).2 where
  entityType := putKeyed_entityType c key r
  issued := c.issued_le_putKeyed key r
  retired := (putKeyed_retired c key r).symm ▸ List.suffix_refl _
  accounted k i found := by
    by_cases same : key = k
    · subst same
      refine .inl ⟨_, get?_putKeyed_self c key r, ?_⟩
      rw [instanceAfter_of_get? found]
      rfl
    · exact .inl ⟨i, (get?_putKeyed_of_ne c r same).trans found, rfl⟩
  origin k i' found' := by
    by_cases same : key = k
    · subst same
      rw [get?_putKeyed_self] at found'
      cases found'
      rcases instanceAfter_serial c key r with ⟨i, found, same⟩ | ⟨_, fresh⟩
      · exact .inr ⟨i, found, same.symm⟩
      · exact .inl (Nat.le_of_eq fresh.symm)
    · exact .inr ⟨i', (get?_putKeyed_of_ne c r same).symm.trans found', rfl⟩

theorem follows_remove (c : IdentityCache) (key : EntityKey) : Follows c (c.remove key).2 := by
  cases cached : c.get? key with
  | none =>
    rw [remove_of_none cached]
    exact .refl c
  | some gone =>
    have retired : (c.remove key).2.retired = gone :: c.retired := by rw [remove_of_get? cached]
    refine ⟨remove_entityType c key, Nat.le_of_eq (remove_issued c key).symm, ?_, ?_, ?_⟩
    · rw [retired]
      exact List.suffix_cons gone c.retired
    · intro k i found
      by_cases same : key = k
      · subst same
        rw [cached] at found
        cases found
        exact .inr ⟨gone, by simp [retired], rfl⟩
      · exact .inl ⟨i, (get?_remove_of_ne c same).trans found, rfl⟩
    · intro k i' found'
      exact .inr ⟨i', (get?_of_get?_remove found').2, rfl⟩

theorem Step.follows (step : Step c c') : Follows c c' := by
  cases step with
  | put _ => exact follows_putKeyed _ _ _
  | remove key => exact follows_remove c key
  | mark synced => exact ⟨rfl, Nat.le_refl _, List.suffix_refl _,
      fun _ i found => .inl ⟨i, found, rfl⟩, fun _ i found => .inr ⟨i, found, rfl⟩⟩

theorem Steps.follows (steps : Steps c c') : Follows c c' := by
  induction steps with
  | refl _ => exact .refl _
  | head step _ ih => exact step.follows.trans ih

/-! ### Reading handles -/

theorem find?_serial {retired : List Instance} {j : Instance}
    (once : retired.Pairwise fun i j => i.serial ≠ j.serial) (member : j ∈ retired) :
    (retired.find? fun i => i.serial = j.serial) = some j := by
  induction retired with
  | nil => cases member
  | cons head rest ih =>
    obtain ⟨below, tail⟩ := List.pairwise_cons.1 once
    rcases List.mem_cons.1 member with rfl | member
    · simp
    · have differ : head.serial ≠ j.serial := below j member
      simpa [differ] using ih tail member

/-- A handle whose instance is cached reads that instance. -/
theorem read?_of_cached {h : Handle} {i : Instance} (found : c.get? h.key = some i)
    (same : i.serial = h.serial) : c.read? h = some i := by
  simp [read?, found, same]

/-- A handle whose instance is retired reads it as it was when it left. -/
theorem Sound.read?_of_retired (sound : c.Sound) {h : Handle} {j : Instance}
    (member : j ∈ c.retired) (same : j.serial = h.serial) : c.read? h = some j := by
  have found : (c.retired.find? fun i => i.serial = h.serial) = some j := by
    rw [← same]
    exact find?_serial sound.retiredOnce member
  unfold read?
  split
  · rename_i i cached
    rw [if_neg fun equal => sound.apart h.key i cached j member (same.trans equal.symm)]
    exact found
  · exact found

end IdentityMap.IdentityCache
