import IdentityMap.Cache.IdentityCache
import IdentityMap.Proofs.OrderedMapLookup
/-!
# What one change does to a cache

Everything that happens to a cache is made of three steps: a record is put under its key, a key is
removed, and the synced mark is set. The lemmas say what each step does to the look-ups, and
`IdentityCache.Steps` is a history of steps.
-/

namespace IdentityMap.IdentityCache

variable {c c' : IdentityCache}

/-! ### Putting -/

/-- The instance of a key once a record is put under it. -/
def instanceAfter (c : IdentityCache) (key : EntityKey) (r : Record) : Instance :=
  match c.get? key with
  | some i => i.replace r
  | none => ⟨c.issued, key, r, 0⟩

/-- What putting a record amounts to, by what was cached. -/
def outcomeAfter (before : Option Instance) (r : Record) : PutOutcome :=
  match before with
  | some i => if Record.same r i.record then .unchanged else .updated i.record
  | none => .created

@[simp] theorem instanceAfter_record (c : IdentityCache) (key : EntityKey) (r : Record) :
    (c.instanceAfter key r).record = r := by
  unfold instanceAfter
  split <;> rfl

theorem putKeyed_fst (c : IdentityCache) (key : EntityKey) (r : Record) :
    (c.putKeyed key r).1 =
      (c.handleOf (c.instanceAfter key r), outcomeAfter (c.get? key) r) := by
  unfold putKeyed instanceAfter outcomeAfter
  cases c.get? key <;> rfl

theorem putKeyed_entries (c : IdentityCache) (key : EntityKey) (r : Record) :
    (c.putKeyed key r).2.entries = c.entries.insert key (c.instanceAfter key r) := by
  unfold putKeyed instanceAfter
  cases c.get? key <;> rfl

@[simp] theorem putKeyed_entityType (c : IdentityCache) (key : EntityKey) (r : Record) :
    (c.putKeyed key r).2.entityType = c.entityType := by
  unfold putKeyed
  split <;> rfl

@[simp] theorem putKeyed_retired (c : IdentityCache) (key : EntityKey) (r : Record) :
    (c.putKeyed key r).2.retired = c.retired := by
  unfold putKeyed
  split <;> rfl

@[simp] theorem putKeyed_synced (c : IdentityCache) (key : EntityKey) (r : Record) :
    (c.putKeyed key r).2.synced = c.synced := by
  unfold putKeyed
  split <;> rfl

theorem putKeyed_issued (c : IdentityCache) (key : EntityKey) (r : Record) :
    (c.putKeyed key r).2.issued = if (c.get? key).isSome then c.issued else c.issued + 1 := by
  unfold putKeyed
  split <;> rename_i found <;> simp [found]

@[simp] theorem get?_putKeyed_self (c : IdentityCache) (key : EntityKey) (r : Record) :
    (c.putKeyed key r).2.get? key = some (c.instanceAfter key r) := by
  unfold get?
  rw [putKeyed_entries, OrderedMap.get?_insert_self]

theorem get?_putKeyed_of_ne (c : IdentityCache) {key k : EntityKey} (r : Record)
    (other : key ≠ k) : (c.putKeyed key r).2.get? k = c.get? k := by
  unfold get?
  rw [putKeyed_entries, OrderedMap.get?_insert_of_ne _ _ other]

/-! ### Removing -/

theorem remove_of_get? {key : EntityKey} {i : Instance} (found : c.get? key = some i) :
    c.remove key = (some (c.handleOf i),
      { c with entries := c.entries.erase key, retired := i :: c.retired }) := by
  simp [remove, found]

theorem remove_of_none {key : EntityKey} (missing : c.get? key = none) :
    c.remove key = (none, c) := by
  simp [remove, missing]

@[simp] theorem remove_entityType (c : IdentityCache) (key : EntityKey) :
    (c.remove key).2.entityType = c.entityType := by
  unfold remove
  split <;> rfl

@[simp] theorem remove_synced (c : IdentityCache) (key : EntityKey) :
    (c.remove key).2.synced = c.synced := by
  unfold remove
  split <;> rfl

@[simp] theorem remove_issued (c : IdentityCache) (key : EntityKey) :
    (c.remove key).2.issued = c.issued := by
  unfold remove
  split <;> rfl

@[simp] theorem get?_remove_self (c : IdentityCache) (key : EntityKey) :
    (c.remove key).2.get? key = none := by
  cases found : c.get? key with
  | none => rw [remove_of_none found, found]
  | some i =>
    rw [remove_of_get? found]
    exact c.entries.get?_erase_self key

theorem get?_remove_of_ne (c : IdentityCache) {key k : EntityKey} (other : key ≠ k) :
    (c.remove key).2.get? k = c.get? k := by
  cases found : c.get? key with
  | none => rw [remove_of_none found]
  | some i =>
    rw [remove_of_get? found]
    exact c.entries.get?_erase_of_ne other

@[simp] theorem get?_markSynced (c : IdentityCache) (synced : Bool) (key : EntityKey) :
    (c.markSynced synced).get? key = c.get? key := rfl

/-! ### Histories -/

/-- One step of a cache. A record is put under the key that it carries. -/
inductive Step (c : IdentityCache) : IdentityCache → Prop
  | put {key : EntityKey} {r : Record} (carries : c.entityType.keyOf? r = some key) :
      Step c (c.putKeyed key r).2
  | remove (key : EntityKey) : Step c (c.remove key).2
  | mark (synced : Bool) : Step c (c.markSynced synced)

/-- The second cache is the first one after some steps. -/
inductive Steps : IdentityCache → IdentityCache → Prop
  | refl (c : IdentityCache) : Steps c c
  | head {c c₁ c' : IdentityCache} (first : Step c c₁) (rest : Steps c₁ c') : Steps c c'

namespace Steps

theorem single (step : Step c c') : Steps c c' := .head step (.refl c')

theorem trans {c₁ : IdentityCache} (first : Steps c c₁) (rest : Steps c₁ c') : Steps c c' := by
  induction first with
  | refl _ => exact rest
  | head step _ ih => exact .head step (ih rest)

/-- What every step keeps, a history keeps. -/
theorem keeps {P : IdentityCache → Prop} (steps : Steps c c') (start : P c)
    (kept : ∀ {a b}, Step a b → P a → P b) : P c' := by
  induction steps with
  | refl _ => exact start
  | head step _ ih => exact ih (kept step start)

end Steps

theorem Step.entityType (step : Step c c') : c'.entityType = c.entityType := by
  cases step with
  | put _ => exact putKeyed_entityType _ _ _
  | remove key => exact remove_entityType c key
  | mark synced => rfl

theorem Steps.entityType (steps : Steps c c') : c'.entityType = c.entityType := by
  induction steps with
  | refl _ => rfl
  | head step _ ih => exact ih.trans step.entityType

end IdentityMap.IdentityCache
