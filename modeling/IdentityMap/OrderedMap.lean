/-!
# Maps listed by key

A finite map kept as a list in strictly ascending key order. The order is part of the type, so a
map has one list form: two maps that answer every look-up alike are equal (`OrderedMap.ext`), and
whatever is listed from a map is listed by key.
-/

namespace IdentityMap

variable {α β : Type} [Ord α]

/-- The entries' keys rise strictly. -/
def Ascending (entries : List (α × β)) : Prop :=
  entries.Pairwise fun a b => compare a.1 b.1 = .lt

/-- The value stored under `key`. -/
def lookupEntry (key : α) : List (α × β) → Option β
  | [] => none
  | (k, v) :: rest => if compare k key = .eq then some v else lookupEntry key rest

/-- Store `value` under `key`, in place of what was there. -/
def insertEntry (key : α) (value : β) : List (α × β) → List (α × β)
  | [] => [(key, value)]
  | (k, v) :: rest =>
    match compare key k with
    | .lt => (key, value) :: (k, v) :: rest
    | .eq => (key, value) :: rest
    | .gt => (k, v) :: insertEntry key value rest

/-- Drop the entry of `key`. -/
def eraseEntry (key : α) (entries : List (α × β)) : List (α × β) :=
  entries.filter fun e => compare e.1 key != .eq

theorem mem_insertEntry {key : α} {value : β} {e : α × β} {entries : List (α × β)}
    (h : e ∈ insertEntry key value entries) : e = (key, value) ∨ e ∈ entries := by
  induction entries with
  | nil => simpa [insertEntry] using h
  | cons head rest ih =>
    obtain ⟨k, v⟩ := head
    rw [insertEntry] at h
    split at h
    · simpa using h
    · rcases List.mem_cons.1 h with h | h
      · exact .inl h
      · exact .inr (List.mem_cons_of_mem _ h)
    · rcases List.mem_cons.1 h with h | h
      · exact .inr (h ▸ List.mem_cons_self)
      · exact (ih h).imp_right (List.mem_cons_of_mem _)

theorem ascending_eraseEntry {entries : List (α × β)} (key : α) (h : Ascending entries) :
    Ascending (eraseEntry key entries) :=
  List.Pairwise.filter _ h

theorem ascending_insertEntry [Std.TransOrd α] {entries : List (α × β)} (key : α) (value : β)
    (h : Ascending entries) : Ascending (insertEntry key value entries) := by
  induction entries with
  | nil => exact List.pairwise_singleton _ _
  | cons head rest ih =>
    obtain ⟨k, v⟩ := head
    obtain ⟨below, rising⟩ := List.pairwise_cons.1 h
    rw [insertEntry]
    split
    · rename_i lower
      refine List.pairwise_cons.2 ⟨fun e he => ?_, h⟩
      rcases List.mem_cons.1 he with rfl | he
      · exact lower
      · exact Std.TransCmp.lt_trans lower (below e he)
    · rename_i same
      refine List.pairwise_cons.2 ⟨fun e he => ?_, rising⟩
      exact Std.TransCmp.lt_of_eq_of_lt same (below e he)
    · rename_i higher
      refine List.pairwise_cons.2 ⟨fun e he => ?_, ih rising⟩
      rcases mem_insertEntry he with rfl | he
      · exact Std.OrientedCmp.lt_of_gt higher
      · exact below e he

/-- A finite map, listed by strictly ascending key. -/
structure OrderedMap (α β : Type) [Ord α] where
  entries : List (α × β)
  ascending : Ascending entries

namespace OrderedMap

instance [DecidableEq α] [DecidableEq β] : DecidableEq (OrderedMap α β) := fun a b =>
  if h : a.entries = b.entries then
    isTrue (by cases a; cases b; cases h; rfl)
  else
    isFalse fun e => h (e ▸ rfl)

/-- The map without entries. -/
def empty : OrderedMap α β := ⟨[], List.Pairwise.nil⟩

instance : Inhabited (OrderedMap α β) := ⟨empty⟩

def get? (m : OrderedMap α β) (key : α) : Option β := lookupEntry key m.entries

def contains (m : OrderedMap α β) (key : α) : Bool := (m.get? key).isSome

def keys (m : OrderedMap α β) : List α := m.entries.map (·.1)

def values (m : OrderedMap α β) : List β := m.entries.map (·.2)

def size (m : OrderedMap α β) : Nat := m.entries.length

def isEmpty (m : OrderedMap α β) : Bool := m.entries.isEmpty

def erase (m : OrderedMap α β) (key : α) : OrderedMap α β :=
  ⟨eraseEntry key m.entries, ascending_eraseEntry key m.ascending⟩

@[simp] theorem get?_empty (key : α) : (empty : OrderedMap α β).get? key = none := rfl

variable [Std.TransOrd α]

def insert (m : OrderedMap α β) (key : α) (value : β) : OrderedMap α β :=
  ⟨insertEntry key value m.entries, ascending_insertEntry key value m.ascending⟩

/-- The entries of a list, a later entry replacing an earlier one of the same key. -/
def ofList (entries : List (α × β)) : OrderedMap α β :=
  entries.foldl (fun m e => m.insert e.1 e.2) empty

/-- The entries of both maps; where both have a key, `n` decides. -/
def merge (m n : OrderedMap α β) : OrderedMap α β :=
  n.entries.foldl (fun m e => m.insert e.1 e.2) m

theorem get?_insert (m : OrderedMap α β) (key : α) (value : β) (k : α) :
    (m.insert key value).get? k = if compare key k = .eq then some value else m.get? k := by
  show lookupEntry k (insertEntry key value m.entries) = _
  unfold get?
  induction m.entries with
  | nil => rfl
  | cons head rest ih =>
    obtain ⟨k', v'⟩ := head
    rw [insertEntry]
    split
    · simp [lookupEntry]
    · rename_i same
      have : (compare k' k = .eq) ↔ (compare key k = .eq) := by
        rw [Std.TransCmp.congr_left same]
      by_cases h : compare key k = .eq <;> simp [lookupEntry, h, this]
    · rename_i higher
      by_cases hk : compare k' k = .eq
      · have : compare key k ≠ .eq := by
          rw [← Std.TransCmp.congr_right hk, higher]; decide
        simp [lookupEntry, hk, this]
      · simp [lookupEntry, hk, ih]

theorem get?_erase (m : OrderedMap α β) (key k : α) :
    (m.erase key).get? k = if compare key k = .eq then none else m.get? k := by
  show lookupEntry k (eraseEntry key m.entries) = _
  unfold get?
  induction m.entries with
  | nil => simp [eraseEntry, lookupEntry]
  | cons head rest ih =>
    obtain ⟨k', v'⟩ := head
    unfold eraseEntry at ih ⊢
    by_cases drop : compare k' key = .eq
    · have same : compare k' k = compare key k := Std.TransCmp.congr_left drop
      simp only [List.filter_cons, drop, bne_self_eq_false, Bool.false_eq_true, if_false, ih,
        lookupEntry, same]
      by_cases h : compare key k = .eq <;> simp [h]
    · have keep : (compare k' key != .eq) = true := by simpa using drop
      simp only [List.filter_cons, keep, if_true, lookupEntry, ih]
      by_cases hk : compare k' k = .eq
      · have : compare key k ≠ .eq := fun h =>
          drop (Std.TransCmp.eq_trans hk (Std.OrientedCmp.eq_symm h))
        simp [hk, this]
      · simp [hk]

variable [Std.LawfulEqOrd α]

omit [Std.TransOrd α] in
/-- An entry is listed exactly when the look-up of its key finds its value. -/
theorem mem_entries_iff (m : OrderedMap α β) (e : α × β) :
    e ∈ m.entries ↔ m.get? e.1 = some e.2 := by
  obtain ⟨entries, rising⟩ := m
  obtain ⟨key, value⟩ := e
  show (key, value) ∈ entries ↔ lookupEntry key entries = some value
  induction entries with
  | nil => simp [lookupEntry]
  | cons head rest ih =>
    obtain ⟨k, v⟩ := head
    obtain ⟨below, tail⟩ := List.pairwise_cons.1 rising
    by_cases h : k = key
    · subst h
      have absent : (k, value) ∉ rest := fun hr => by
        have := below _ hr
        simp at this
      simp [lookupEntry, absent, eq_comm]
    · have : compare k key ≠ .eq := fun he => h (Std.LawfulEqOrd.eq_of_compare he)
      simp [lookupEntry, this, ih tail, Ne.symm h]

/-- Two maps that answer every look-up alike are equal. -/
theorem ext {m n : OrderedMap α β} (h : ∀ key, m.get? key = n.get? key) : m = n := by
  have same : ∀ e, e ∈ m.entries ↔ e ∈ n.entries := fun e => by
    rw [mem_entries_iff, mem_entries_iff, h]
  obtain ⟨a, ha⟩ := m
  obtain ⟨b, hb⟩ := n
  have : a = b := by
    clear h
    induction a generalizing b with
    | nil => exact (List.eq_nil_iff_forall_not_mem.2 fun e he => by simpa using (same e).2 he).symm
    | cons x xs ih =>
      cases b with
      | nil => simpa using (same x).1 List.mem_cons_self
      | cons y ys =>
        obtain ⟨belowX, risingX⟩ := List.pairwise_cons.1 ha
        obtain ⟨belowY, risingY⟩ := List.pairwise_cons.1 hb
        have head : x = y := by
          rcases List.mem_cons.1 ((same x).1 List.mem_cons_self) with hx | hx
          · exact hx
          · rcases List.mem_cons.1 ((same y).2 List.mem_cons_self) with hy | hy
            · exact hy.symm
            · have := Std.TransCmp.lt_trans (belowY _ hx) (belowX _ hy)
              simp at this
        subst head
        congr 1
        refine ih risingX ys risingY fun e => ?_
        have tail := same e
        simp only [List.mem_cons] at tail
        constructor
        · intro he
          rcases tail.1 (.inr he) with rfl | hy
          · have := belowX _ he
            simp at this
          · exact hy
        · intro he
          rcases tail.2 (.inr he) with rfl | hy
          · have := belowY _ he
            simp at this
          · exact hy
  subst this
  rfl

end OrderedMap

end IdentityMap
