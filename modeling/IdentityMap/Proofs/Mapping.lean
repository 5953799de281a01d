import Mathlib.Data.List.Forall2
import Mathlib.Data.List.Nodup
import IdentityMap.Proofs.Declaration
/-!
# How a table follows its type

The key of a type is known by the name that its declaration gives, by its position among the fields
and by the mark on its column. The builder looks for the first field of the name and the table for
the first column with the mark; the values are the fields of other names and the columns without a
mark. That all of this is about one position is due to the names being different: a declaration may
name keys more than once, and then every key but the last is a value
(`TableMapping.derived_of_build`).
-/

namespace IdentityMap

/-! ### A list in which one element is sought -/

section Sought

variable {α : Type} {sought : α → Bool} {l : List α} {k : Nat}

theorem findIdx?_of_only (inside : k < l.length)
    (only : ∀ i a, l[i]? = some a → (sought a = true ↔ i = k)) : l.findIdx? sought = some k := by
  have here := (only k l[k] (List.getElem?_eq_getElem inside)).2 rfl
  refine List.findIdx?_eq_some_iff_getElem.2 ⟨inside, here, fun i before found => ?_⟩
  have same := (only i l[i] (List.getElem?_eq_getElem (before.trans inside))).1 found
  exact Nat.ne_of_lt before same

/-- What is not sought is the list without the element at `k`. -/
theorem filter_not_of_only (only : ∀ i a, l[i]? = some a → (sought a = true ↔ i = k)) :
    (l.filter fun a => !sought a) = l.eraseIdx k := by
  induction l generalizing k with
  | nil => rfl
  | cons a rest ih =>
    -- the element is the first one, and nothing after it is sought, or it stands further on
    cases k with
    | zero =>
      have here : sought a = true := (only 0 a rfl).2 rfl
      have others : ∀ b ∈ rest, (!sought b) = true := by
        intro b later
        obtain ⟨i, there⟩ := List.mem_iff_getElem?.1 later
        have apart : ¬ sought b = true := fun found => by cases (only (i + 1) b there).1 found
        simpa using apart
      rw [List.filter_cons_of_neg (by simp [here]), List.filter_eq_self.2 others]
      rfl
    | succ k =>
      have kept : ¬ sought a = true := fun found => by cases (only 0 a rfl).1 found
      have later := ih fun i b there => (only (i + 1) b there).trans (Nat.add_right_cancel_iff)
      rw [List.filter_cons_of_pos (by simpa using kept), later]
      rfl

end Sought

/-- Of elements with different names, only the one at `k` has its name. -/
theorem name_eq_iff_of_apart {α β : Type} {name : α → β} {l : List α}
    (apart : l.Pairwise fun a b => name a ≠ name b) {i k : Nat} {a b : α}
    (here : l[k]? = some a) (there : l[i]? = some b) : name b = name a ↔ i = k := by
  constructor
  · intro same
    have distinct : (l.map name).Nodup := List.pairwise_map.2 apart
    have inside : i < (l.map name).length := by
      simpa using (List.getElem?_eq_some_iff.1 there).1
    refine (List.getElem?_inj inside distinct).1 ?_
    rw [List.getElem?_map, List.getElem?_map, here, there]
    exact congrArg some same
  · rintro rfl
    rw [Option.some.inj (here.symm.trans there)]

/-! ### Where the key is looked for -/

/-- The position of the first field that has the name of the key. -/
def Declaration.keyIndex? (d : Declaration) : Option Nat :=
  d.keyName.bind fun name => d.fields.findIdx? fun f => f.name = name

/-- The position of the first column that is marked as the key's, or else the first one. -/
def TableMapping.keyPosition (m : TableMapping) : Nat :=
  (m.columns.findIdx? Column.isKey).getD 0

/-! ### Columns and fields -/

/-- The column says what the field declares. -/
structure Column.Describes (c : Column) (f : Field) : Prop where
  field : c.field = f.name
  name : c.name = f.column
  type : c.type = f.type
  nullable : c.nullable = f.nullable

namespace EntityType

variable {t : EntityType} {k : Nat}

theorem columnOf_describes (t : EntityType) (f : Field) : (t.columnOf f).Describes f :=
  ⟨rfl, rfl, rfl, rfl⟩

theorem describes_map (t : EntityType) (fields : List Field) :
    List.Forall₂ Column.Describes (fields.map t.columnOf) fields :=
  List.forall₂_map_left_iff.2 (List.forall₂_same.2 fun f _ => t.columnOf_describes f)

/-- A column stands where its field stands. -/
theorem columns_getElem?_eq_some_iff {i : Nat} {c : Column} :
    (TableMapping.mk t).columns[i]? = some c ↔ ∃ f, t.fields[i]? = some f ∧ t.columnOf f = c := by
  rw [TableMapping.columns, List.getElem?_map, Option.map_eq_some_iff]

/-- The key's name occurs at the key's position only. -/
theorem name_eq_key_iff (key : t.fields[k]? = some t.key) {i : Nat} {f : Field}
    (there : t.fields[i]? = some f) : f.name = t.key.name ↔ i = k :=
  name_eq_iff_of_apart t.wellFormed.fields.names key there

theorem isKey_iff_position (key : t.fields[k]? = some t.key) {i : Nat} {c : Column}
    (there : (TableMapping.mk t).columns[i]? = some c) : c.isKey = true ↔ i = k := by
  obtain ⟨f, declared, rfl⟩ := columns_getElem?_eq_some_iff.1 there
  rw [← name_eq_key_iff key declared]
  simp [columnOf]

theorem generated_iff_position (key : t.fields[k]? = some t.key) {i : Nat} {c : Column}
    (there : (TableMapping.mk t).columns[i]? = some c) :
    c.generated = true ↔ i = k ∧ t.assignment = .backend := by
  rw [← isKey_iff_position key there]
  obtain ⟨f, -, rfl⟩ := columns_getElem?_eq_some_iff.1 there
  simp [columnOf]

theorem valueFields_eq_eraseIdx (key : t.fields[k]? = some t.key) :
    t.valueFields = t.fields.eraseIdx k := by
  have only (i : Nat) (f : Field) (there : t.fields[i]? = some f) :
      decide (f.name = t.key.name) = true ↔ i = k := by
    simpa using name_eq_key_iff key there
  rw [← filter_not_of_only only]
  simp [valueFields]

end EntityType

namespace TableMapping

/-- The columns of the table come from the fields of its type, one by one and in order, and what is
the key's stands at position `k`. -/
structure Derived (m : TableMapping) (k : Nat) : Prop where
  columns : List.Forall₂ Column.Describes m.columns m.entityType.fields
  keyField : m.entityType.fields[k]? = some m.entityType.key
  keyColumn : m.columns[k]? = some m.keyColumn
  describesKey : m.keyColumn.Describes m.entityType.key
  marked : ∀ i c, m.columns[i]? = some c → (c.isKey = true ↔ i = k)
  generated : ∀ i c, m.columns[i]? = some c →
    (c.generated = true ↔ i = k ∧ m.entityType.assignment = .backend)
  valueFields : m.entityType.valueFields = m.entityType.fields.eraseIdx k
  valueColumns : m.valueColumns = m.columns.eraseIdx k
  describesValues : List.Forall₂ Column.Describes m.valueColumns m.entityType.valueFields
  insertColumns : m.insertColumns =
    if m.entityType.assignment = .backend then m.columns.eraseIdx k else m.columns
  columnFor? : ∀ name c, m.columnFor? name = some c ↔
    ∃ (i : Nat) (f : Field), m.entityType.fields[i]? = some f ∧ f.name = name ∧
      m.columns[i]? = some c

variable {m : TableMapping} {k : Nat}

theorem valueColumns_eq_map (m : TableMapping) :
    m.valueColumns = m.entityType.valueFields.map m.entityType.columnOf := by
  simp [valueColumns, columns, EntityType.valueFields, List.filter_map, Function.comp_def,
    EntityType.columnOf]

theorem valueColumns_eq_eraseIdx (key : m.entityType.fields[k]? = some m.entityType.key) :
    m.valueColumns = m.columns.eraseIdx k :=
  filter_not_of_only fun _ _ there => EntityType.isKey_iff_position key there

/-- An insert leaves the key out if and only if the row store generates it. -/
theorem insertColumns_eq_ite (key : m.entityType.fields[k]? = some m.entityType.key) :
    m.insertColumns =
      if m.entityType.assignment = .backend then m.columns.eraseIdx k else m.columns := by
  split
  · rename_i assigned
    refine filter_not_of_only fun i c there => ?_
    rw [EntityType.generated_iff_position key there, and_iff_left assigned]
  · rename_i assigned
    refine List.filter_eq_self.2 fun c mapped => ?_
    obtain ⟨i, there⟩ := List.mem_iff_getElem?.1 mapped
    have given : ¬ c.generated = true := fun generated =>
      assigned ((EntityType.generated_iff_position key there).1 generated).2
    simpa using given

/-- The column found for a name stands where the field of that name stands. -/
theorem columnFor?_eq_some_iff {name : String} {c : Column} :
    m.columnFor? name = some c ↔
      ∃ (i : Nat) (f : Field), m.entityType.fields[i]? = some f ∧ f.name = name ∧
        m.columns[i]? = some c := by
  constructor
  · intro found
    obtain ⟨i, there⟩ := List.mem_iff_getElem?.1 (List.mem_of_find?_eq_some found)
    have named : c.field = name := by simpa using List.find?_some found
    obtain ⟨f, declared, rfl⟩ := EntityType.columns_getElem?_eq_some_iff.1 there
    exact ⟨i, f, declared, named, there⟩
  · rintro ⟨i, f, declared, rfl, there⟩
    obtain ⟨g, again, rfl⟩ := EntityType.columns_getElem?_eq_some_iff.1 there
    cases declared.symm.trans again
    refine find?_of_apart m.entityType.fields_apart (List.mem_of_getElem? there) ?_ ?_
    · simp [EntityType.columnOf]
    · intro d named
      simpa [EntityType.columnOf] using named

theorem derived_of_keyField (key : m.entityType.fields[k]? = some m.entityType.key) :
    m.Derived k where
  columns := m.entityType.describes_map m.entityType.fields
  keyField := key
  keyColumn := EntityType.columns_getElem?_eq_some_iff.2 ⟨m.entityType.key, key, rfl⟩
  describesKey := m.entityType.columnOf_describes m.entityType.key
  marked _ _ there := EntityType.isKey_iff_position key there
  generated _ _ there := EntityType.generated_iff_position key there
  valueFields := EntityType.valueFields_eq_eraseIdx key
  valueColumns := valueColumns_eq_eraseIdx key
  describesValues := m.valueColumns_eq_map ▸ m.entityType.describes_map _
  insertColumns := insertColumns_eq_ite key
  columnFor? _ _ := columnFor?_eq_some_iff

/-- The mark is found where the key is. -/
theorem Derived.keyPosition_eq (derived : m.Derived k) : m.keyPosition = k := by
  have inside := (List.getElem?_eq_some_iff.1 derived.keyColumn).1
  rw [keyPosition, findIdx?_of_only inside derived.marked]
  rfl

end TableMapping

/-! ### From the declaration to the table -/

namespace Declaration

/-- The builder finds the key at the first field that has its name. -/
theorem keyIndex?_of_key? {d : Declaration} {key : Field} (declared : d.key? = .ok key) :
    ∃ k, d.keyIndex? = some k ∧ d.fields[k]? = some key := by
  unfold key? at declared
  split at declared
  · cases declared
  rename_i name named
  split at declared
  · cases declared
  rename_i f found
  cases declared
  obtain ⟨has, k, inside, here, before⟩ := List.find?_eq_some_iff_getElem.1 found
  refine ⟨k, ?_, here ▸ List.getElem?_eq_getElem inside⟩
  rw [keyIndex?, named]
  refine List.findIdx?_eq_some_iff_getElem.2 ⟨inside, here ▸ has, fun i earlier => ?_⟩
  simpa using before i earlier

end Declaration

namespace TableMapping

/-- The table of every type that is built has one column for each declared field, in order, with the
field's column name, type and nullability. At the position where the builder finds the name of the
key stand the key's field and its column; it is the only column with the key's mark and the one that
the table finds. The other columns are those of the values, and an insert leaves out the key's alone
and only if the row store assigns it. A field's name leads to the column of that field, and any
other name to none. -/
theorem derived_of_build (d : Declaration) (t : EntityType) (built : d.build = .ok t) :
    t.fields = d.fields ∧ t.assignment = d.assignment ∧
      ∃ k, d.keyIndex? = some k ∧ (TableMapping.mk t).keyPosition = k ∧
        (TableMapping.mk t).Derived k := by
  obtain ⟨key, declared, same⟩ := Declaration.build_eq_ok_iff.1 built
  have fields : t.fields = d.fields := congrArg Schema.fields same
  obtain ⟨k, found, there⟩ := Declaration.keyIndex?_of_key? declared
  have keyField : t.fields[k]? = some t.key := by
    rw [fields, there, show t.key = key from congrArg Schema.key same]
  have derived : (TableMapping.mk t).Derived k := derived_of_keyField keyField
  exact ⟨fields, congrArg Schema.assignment same, k, found, derived.keyPosition_eq, derived⟩

end TableMapping

namespace Declaration

/-- Two keys are named. The last one stands between values, one of which is stored in a column that
has the name of the key's field. -/
def ticketSteps : List Step := [.key "code" (.string (some 8)), .assignment .backend,
  .fieldDef ⟨"weight", "serialNo", .double, true⟩, .key "serialNo" .bigInt,
  .nullableField "note" (.string none)]

/-- The type that the steps declare. -/
def ticket : EntityType where
  toSchema := (declared "Ticket" ticketSteps).schema (.required "serialNo" .bigInt)
  wellFormed := {
    named := by decide +kernel
    tabled := by decide +kernel
    fields := ⟨by decide +kernel, by decide +kernel, by decide +kernel⟩
    keyDeclared := by decide +kernel
    keyRequired := rfl
    keyType := rfl
    keyInteger := fun _ => rfl
    indexes := fun _ listed => by cases listed }

end Declaration

namespace TableMapping

open Declaration

theorem derived_of_build_ticket : (declared "Ticket" ticketSteps).build = .ok ticket ∧
    (TableMapping.mk ticket).keyPosition = 2 ∧ (TableMapping.mk ticket).Derived 2 ∧
    (TableMapping.mk ticket).insertColumns.map Column.name = ["code", "serialNo", "note"] ∧
    (TableMapping.mk ticket).columnFor? "serialNo" = some (TableMapping.mk ticket).keyColumn := by
  have key : (declared "Ticket" ticketSteps).key? = .ok (.required "serialNo" .bigInt) := by
    decide +kernel
  have built := build_eq_ok_iff.2 ⟨_, key, (rfl : ticket.toSchema = _)⟩
  obtain ⟨-, -, k, index, position, derived⟩ := derived_of_build _ ticket built
  have third : (declared "Ticket" ticketSteps).keyIndex? = some 2 := by decide +kernel
  obtain rfl : 2 = k := Option.some.inj (third.symm.trans index)
  refine ⟨built, position, derived, by decide +kernel, (derived.columnFor? _ _).2 ?_⟩
  exact ⟨2, ticket.key, derived.keyField, rfl, derived.keyColumn⟩

end TableMapping

end IdentityMap
