/-!
# Lists without repetition
-/

namespace IdentityMap

variable {α : Type} [DecidableEq α]

/-- The elements in the order in which they are first seen, each once. -/
def distinct : List α → List α
  | [] => []
  | a :: rest => a :: (distinct rest).filter (· ≠ a)

@[simp] theorem mem_distinct {a : α} {l : List α} : a ∈ distinct l ↔ a ∈ l := by
  induction l with
  | nil => simp [distinct]
  | cons b rest ih =>
    by_cases h : a = b <;> simp [distinct, ih, h]

theorem nodup_distinct (l : List α) : (distinct l).Nodup := by
  induction l with
  | nil => simp [distinct]
  | cons b rest ih =>
    exact List.nodup_cons.2 ⟨by simp, ih.filter _⟩

theorem distinct_ne_nil {l : List α} (some : l ≠ []) : distinct l ≠ [] := by
  cases l with
  | nil => exact absurd rfl some
  | cons a rest => simp [distinct]

/-- Where nothing is repeated nothing is left out. -/
theorem distinct_of_nodup {l : List α} (once : l.Nodup) : distinct l = l := by
  induction l with
  | nil => rfl
  | cons a rest ih =>
    obtain ⟨absent, rest_once⟩ := List.nodup_cons.1 once
    rw [distinct, ih rest_once, List.filter_eq_self.2]
    intro b listed
    simpa using fun same : b = a => absent (same ▸ listed)

/-- The elements by what `key` says of them: one group for each answer, in the order in which the
answers are first seen, and each group in the order of the list. -/
def grouped {β : Type} (key : β → α) (l : List β) : List (α × List β) :=
  (distinct (l.map key)).map fun a => (a, l.filter fun b => key b = a)

theorem mem_grouped {β : Type} {key : β → α} {l : List β} {group : α × List β} :
    group ∈ grouped key l ↔ ∃ b ∈ l, group = (key b, l.filter fun b' => key b' = key b) := by
  constructor
  · intro listed
    obtain ⟨a, here, rfl⟩ := List.mem_map.1 listed
    obtain ⟨b, member, rfl⟩ := List.mem_map.1 (mem_distinct.1 here)
    exact ⟨b, member, rfl⟩
  · rintro ⟨b, member, rfl⟩
    exact List.mem_map.2 ⟨key b, mem_distinct.2 (List.mem_map_of_mem member), rfl⟩

end IdentityMap
