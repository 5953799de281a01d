import IdentityMap.OrderedMap
import Mathlib.Data.List.Sort
/-!
# Look-ups in ordered maps

With an order that tells all keys apart, a look-up after a change of the map compares keys by
equality, and the listed keys are exactly those with a value, each once.
-/

namespace IdentityMap.OrderedMap

variable {α β : Type} [Ord α] [Std.LawfulEqOrd α]

theorem mem_keys_iff {m : OrderedMap α β} {key : α} : key ∈ m.keys ↔ ∃ v, m.get? key = some v := by
  unfold keys
  constructor
  · intro listed
    obtain ⟨e, member, rfl⟩ := List.mem_map.1 listed
    exact ⟨e.2, (m.mem_entries_iff e).1 member⟩
  · rintro ⟨v, found⟩
    exact List.mem_map.2 ⟨(key, v), (m.mem_entries_iff (key, v)).2 found, rfl⟩

theorem nodup_keys (m : OrderedMap α β) : m.keys.Nodup := by
  refine List.pairwise_map.2 (m.ascending.imp fun {a b} below same => ?_)
  rw [same, Std.LawfulEqOrd.compare_eq_iff_eq.2 rfl] at below
  cases below

theorem mem_values_iff {m : OrderedMap α β} {v : β} :
    v ∈ m.values ↔ ∃ key, m.get? key = some v := by
  unfold values
  constructor
  · intro listed
    obtain ⟨e, member, rfl⟩ := List.mem_map.1 listed
    exact ⟨e.1, (m.mem_entries_iff e).1 member⟩
  · rintro ⟨key, found⟩
    exact List.mem_map.2 ⟨(key, v), (m.mem_entries_iff (key, v)).2 found, rfl⟩

variable [Std.TransOrd α]

/-- Two lists of keys that ascend are equal if they have the same keys. -/
theorem eq_of_ascending {keys keys' : List α}
    (ascending : keys.Pairwise fun key key' => compare key key' = .lt)
    (ascending' : keys'.Pairwise fun key key' => compare key key' = .lt)
    (same : ∀ key, key ∈ keys ↔ key ∈ keys') : keys = keys' := by
  have irreflexive : Std.Irrefl fun key key' : α => compare key key' = .lt :=
    ⟨fun key below => by simp at below⟩
  have antisymmetric : Std.Antisymm fun key key' : α => compare key key' = .lt :=
    ⟨fun key key' below above => by simpa using Std.TransCmp.lt_trans below above⟩
  exact ascending.eq_of_mem_iff ascending' same

/-- Two maps list the same keys if they have values for the same ones. -/
theorem keys_congr {m n : OrderedMap α β}
    (same : ∀ key, (∃ v, m.get? key = some v) ↔ ∃ v, n.get? key = some v) : m.keys = n.keys :=
  eq_of_ascending (List.pairwise_map.2 m.ascending) (List.pairwise_map.2 n.ascending) fun key =>
    mem_keys_iff.trans ((same key).trans mem_keys_iff.symm)

@[simp] theorem get?_insert_self (m : OrderedMap α β) (key : α) (value : β) :
    (m.insert key value).get? key = some value := by
  rw [get?_insert, if_pos (Std.LawfulEqOrd.compare_eq_iff_eq.2 rfl)]

theorem get?_insert_of_ne (m : OrderedMap α β) {key k : α} (value : β) (other : key ≠ k) :
    (m.insert key value).get? k = m.get? k := by
  rw [get?_insert, if_neg fun same => other (Std.LawfulEqOrd.compare_eq_iff_eq.1 same)]

/-- Of two values for one key the later one stays. -/
@[simp] theorem insert_insert (m : OrderedMap α β) (key : α) (value later : β) :
    (m.insert key value).insert key later = m.insert key later := by
  refine ext fun k => ?_
  rw [get?_insert, get?_insert, get?_insert]
  split <;> rfl

/-- A value that is there already changes nothing. -/
theorem insert_of_get? {m : OrderedMap α β} {key : α} {value : β}
    (found : m.get? key = some value) : m.insert key value = m := by
  refine ext fun k => ?_
  by_cases own : key = k
  · rw [← own, get?_insert_self, found]
  · rw [get?_insert_of_ne _ _ own]

/-- A value in place of another one leaves the keys as they are. -/
theorem keys_insert_of_get? {m : OrderedMap α β} {key : α} {before : β}
    (found : m.get? key = some before) (value : β) : (m.insert key value).keys = m.keys := by
  refine keys_congr fun k => ?_
  by_cases own : key = k
  · subst own
    simp [found]
  · rw [get?_insert_of_ne _ _ own]

@[simp] theorem get?_erase_self (m : OrderedMap α β) (key : α) : (m.erase key).get? key = none := by
  rw [get?_erase, if_pos (Std.LawfulEqOrd.compare_eq_iff_eq.2 rfl)]

theorem get?_erase_of_ne (m : OrderedMap α β) {key k : α} (other : key ≠ k) :
    (m.erase key).get? k = m.get? k := by
  rw [get?_erase, if_neg fun same => other (Std.LawfulEqOrd.compare_eq_iff_eq.1 same)]

omit [Std.TransOrd α] in
theorem lookupEntry_of_below {key : α} {entries : List (α × β)}
    (below : ∀ e ∈ entries, compare key e.1 = .lt) : lookupEntry key entries = none := by
  induction entries with
  | nil => rfl
  | cons e rest ih =>
    have other : compare e.1 key ≠ .eq := by
      intro same
      have first := below e List.mem_cons_self
      rw [Std.LawfulEqOrd.compare_eq_iff_eq.1 same,
        Std.LawfulEqOrd.compare_eq_iff_eq.2 rfl] at first
      cases first
    rw [lookupEntry, if_neg other]
    exact ih fun e listed => below e (List.mem_cons_of_mem _ listed)

/-- In a merged map the second one decides, where it has the key. -/
theorem get?_merge (m n : OrderedMap α β) (key : α) :
    (m.merge n).get? key = (n.get? key).or (m.get? key) := by
  have inserted : ∀ entries : List (α × β), Ascending entries → ∀ m : OrderedMap α β,
      (entries.foldl (fun m e => m.insert e.1 e.2) m).get? key
        = (lookupEntry key entries).or (m.get? key) := by
    intro entries
    induction entries with
    | nil => exact fun _ _ => rfl
    | cons e rest ih =>
      intro rising m
      obtain ⟨below, rising⟩ := List.pairwise_cons.1 rising
      rw [List.foldl_cons, ih rising]
      by_cases own : e.1 = key
      · subst own
        rw [lookupEntry_of_below below, get?_insert_self, lookupEntry,
          if_pos (Std.LawfulEqOrd.compare_eq_iff_eq.2 rfl)]
        rfl
      · rw [get?_insert_of_ne _ _ own, lookupEntry,
          if_neg fun same => own (Std.LawfulEqOrd.compare_eq_iff_eq.1 same)]
  exact inserted n.entries n.ascending m

end IdentityMap.OrderedMap
