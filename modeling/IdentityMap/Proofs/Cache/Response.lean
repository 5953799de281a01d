import IdentityMap.Policy
import IdentityMap.Proofs.Cache.Merges
/-!
# Responses to lookups of keys

A response may bring rows in any order, the same key several times, keys that nobody asked for, and
nothing for others. What a cache holds under a key once the response is merged depends on the last
record with this key alone (`IdentityCache.get?_mergeFetched_returned` and the two lemmas after it),
and a lookup answers with what is cached then (`IdentityCache.find?_answered`).
-/

namespace IdentityMap

/-- The last of the records with a key. -/
def EntityType.lastWith (t : EntityType) (key : EntityKey) (records : List Record) :
    Option Record :=
  (records.filter fun r => t.keyOf? r = some key).getLast?

theorem EntityType.lastWith_eq_none_iff {t : EntityType} {key : EntityKey}
    {records : List Record} :
    t.lastWith key records = none ↔ ∀ r ∈ records, t.keyOf? r ≠ some key := by
  simp [lastWith]

theorem EntityType.lastWith_isSome_iff {t : EntityType} {key : EntityKey}
    {records : List Record} :
    (∃ r, t.lastWith key records = some r) ↔ ∃ r ∈ records, t.keyOf? r = some key := by
  rw [← Option.ne_none_iff_exists', Ne, lastWith_eq_none_iff]
  simp

theorem EntityType.lastWith_cons (t : EntityType) (key : EntityKey) (r : Record)
    (rest : List Record) :
    t.lastWith key (r :: rest)
      = (t.lastWith key rest).or (if t.keyOf? r = some key then some r else none) := by
  unfold lastWith
  by_cases own : t.keyOf? r = some key
  · simp only [List.filter_cons, own, decide_true, if_true, List.getLast?_cons]
    cases (rest.filter fun r => t.keyOf? r = some key).getLast? <;> rfl
  · simp [own]

namespace IdentityCache

variable {c c' : IdentityCache} {pairs : List (EntityKey × Record)} {key : EntityKey}

theorem not_mem_keys_iff (carried : Carried c.entityType pairs) :
    key ∉ pairs.map (·.1) ↔ c.entityType.lastWith key (pairs.map (·.2)) = none := by
  rw [EntityType.lastWith_eq_none_iff]
  constructor
  · intro absent r listed carries
    obtain ⟨p, member, rfl⟩ := List.mem_map.1 listed
    rw [carried p member] at carries
    exact absent (List.mem_map.2 ⟨p, member, Option.some.inj carries⟩)
  · intro others listed
    obtain ⟨p, member, rfl⟩ := List.mem_map.1 listed
    exact others p.2 (List.mem_map_of_mem member) (carried p member)

/-- A key that is put several times holds the last of its records. -/
theorem get?_putAllKeyed_last (carried : Carried c.entityType pairs) {r : Record}
    (last : c.entityType.lastWith key (pairs.map (·.2)) = some r) :
    ∃ i, (putAllKeyed pairs c).2.get? key = some i ∧ i.record = r := by
  induction pairs generalizing c with
  | nil => cases last
  | cons p rest ih =>
    have type : (c.putKeyed p.1 p.2).2.entityType = c.entityType := putKeyed_entityType ..
    have carriedRest : Carried (c.putKeyed p.1 p.2).2.entityType rest := by
      rw [type]
      exact fun q listed => carried q (List.mem_cons_of_mem _ listed)
    rw [putAllKeyed_cons]
    rw [List.map_cons, EntityType.lastWith_cons] at last
    cases later : c.entityType.lastWith key (rest.map (·.2)) with
    | some r' =>
      rw [later] at last
      cases last
      exact ih carriedRest (type ▸ later)
    | none =>
      rw [later, Option.none_or, carried p List.mem_cons_self] at last
      split at last <;> cases last
      rename_i own
      obtain rfl := Option.some.inj own
      refine ⟨_, ?_, instanceAfter_record c p.1 p.2⟩
      have absent := (not_mem_keys_iff carriedRest).2 (type ▸ later)
      rw [get?_putAllKeyed_of_not_mem absent, get?_putKeyed_self]

/-! ### Merged responses -/

variable {keys : List EntityKey} {records : List Record} {handles : List Handle}
  {events : List Event}

/-- A key that came back is cached, asked for or not, with the last record that came back. -/
theorem get?_mergeFetched_returned (sound : c.Sound)
    (merge : c.mergeFetched keys records = .ok ((handles, events), c')) {r : Record}
    (last : c.entityType.lastWith key records = some r) :
    ∃ i, c'.get? key = some i ∧ i.record = r := by
  obtain ⟨pairs, keyed, carried, -, rfl, -⟩ := mergeFetched_eq_ok sound merge
  obtain ⟨rfl, -⟩ := keyed_eq_ok keyed
  obtain ⟨i, found, same⟩ := get?_putAllKeyed_last carried last
  have returned : key ∈ pairs.map (·.1) := by
    by_contra absent
    rw [(not_mem_keys_iff carried).1 absent] at last
    cases last
  refine ⟨i, ?_, same⟩
  rw [get?_removeAll, if_neg (by simp [vanished, returned])]
  exact found

/-- What did not come back is gone if it was asked for, and is as before otherwise. -/
theorem get?_mergeFetched_missing (sound : c.Sound)
    (merge : c.mergeFetched keys records = .ok ((handles, events), c'))
    (missing : c.entityType.lastWith key records = none) :
    c'.get? key = if key ∈ keys then none else c.get? key := by
  obtain ⟨pairs, keyed, carried, -, rfl, -⟩ := mergeFetched_eq_ok sound merge
  obtain ⟨rfl, -⟩ := keyed_eq_ok keyed
  have absent := (not_mem_keys_iff carried).2 missing
  have asked : key ∈ vanished keys pairs ↔ key ∈ keys := by
    simpa [vanished] using fun _ => absent
  rw [get?_removeAll, get?_putAllKeyed_of_not_mem absent]
  simp only [asked]

/-- The instances of all keys that came back are among those that the merge answers with. -/
theorem key_mem_mergeFetched (sound : c.Sound)
    (merge : c.mergeFetched keys records = .ok ((handles, events), c')) {r : Record}
    (last : c.entityType.lastWith key records = some r) : ∃ h ∈ handles, h.key = key := by
  obtain ⟨pairs, keyed, carried, rfl, -⟩ := mergeFetched_eq_ok sound merge
  obtain ⟨rfl, -⟩ := keyed_eq_ok keyed
  have returned : key ∈ pairs.map (·.1) := by
    by_contra absent
    rw [(not_mem_keys_iff carried).1 absent] at last
    cases last
  rw [← keys_putAllKeyed sound carried] at returned
  obtain ⟨m, listed, same⟩ := List.mem_map.1 returned
  exact ⟨m.1, List.mem_map_of_mem listed, same⟩

end IdentityCache

end IdentityMap
