import IdentityMap.Proofs.Keys
import IdentityMap.Proofs.Rows
import IdentityMap.Proofs.Sql.Tables
import IdentityMap.Sql.Statement
/-!
# Records bound to statements

What the parameters of a statement put into the cells of a row. `Stores` says that a row holds the
values of a record, each in the column of its field: after an insert of the record, also where the
key is generated, and after an update of its row.
-/

namespace IdentityMap.Sql

open Dialect

/-! ### Parameters -/

/-- The values of a record for some columns, in order. -/
def bound (columns : List Column) (r : Record) : List Value :=
  (fieldNames columns).map (Record.valueOf r)

@[simp] theorem length_bound (columns : List Column) (r : Record) :
    (bound columns r).length = columns.length := by
  simp [bound, fieldNames]

namespace Cells

variable {cells : Cells} {columns : List Column} {r : Record}

/-- A column that is written takes the value of its field. -/
theorem cell_write_of_mem (apart : columns.Pairwise fun c d => c.name ≠ d.name) {c : Column}
    (member : c ∈ columns) : (cells.write (columnNames columns) (bound columns r)).cell c.name
      = (r.valueOf c.field).toStored := by
  have found : ((columnNames columns).zip (bound columns r)).lookup c.name
      = some (r.valueOf c.field) := by
    unfold bound columnNames fieldNames
    induction columns with
    | nil => cases member
    | cons d rest ih =>
      obtain ⟨others, apart⟩ := List.pairwise_cons.1 apart
      simp only [List.map_cons, List.zip_cons_cons]
      rcases List.mem_cons.1 member with rfl | member
      · exact List.lookup_cons_self
      · have differ : (c.name == d.name) = false := by
          simpa using (others c member).symm
        rw [List.lookup_cons, differ]
        exact ih apart member
  simp [write, found]

/-- The other columns are left alone. -/
theorem cell_write_of_not_mem {names : List String} {params : List Value} {name : String}
    (absent : name ∉ names) : (cells.write names params).cell name = cells.cell name := by
  have missing : (names.zip params).lookup name = none := by
    rw [List.lookup_eq_none_iff]
    intro p listed
    have named := (List.of_mem_zip (a := p.1) (b := p.2) listed).1
    simpa using fun same : name = p.1 => absent (same ▸ named)
  simp [write, missing]

/-- Parameters beyond the columns are not looked at. -/
theorem write_append {names : List String} {params more : List Value}
    (length : params.length = names.length) :
    cells.write names (params ++ more) = cells.write names params := by
  have zipped : names.zip (params ++ more) = names.zip params := by
    have both : (names ++ []).zip (params ++ more) = names.zip params ++ [].zip more :=
      List.zip_append length.symm
    simpa using both
  simp [write, zipped]

end Cells

/-- Each record of a joint insert goes into a row of its own. -/
theorem insertedCells_bound {columns : List Column} (records : List Record) :
    insertedCells (columnNames columns) records.length (records.flatMap (bound columns))
      = records.map fun r => Cells.null.write (columnNames columns) (bound columns r) := by
  have width (r : Record) : (bound columns r).length = (columnNames columns).length := by
    simp [columnNames]
  induction records with
  | nil => rfl
  | cons r rest ih =>
    rw [List.length_cons, List.flatMap_cons, insertedCells, Cells.write_append (width r),
      List.drop_left' (width r), ih, List.map_cons]

theorem bindGroups_replicate (fields : List String) (records : List Record) :
    Statement.bindGroups fields.length (List.replicate records.length fields).flatten records
      = records.flatMap fun r => fields.map (Record.valueOf r) := by
  induction records with
  | nil => rfl
  | cons r rest ih =>
    rw [List.length_cons, List.replicate_succ, List.flatten_cons, Statement.bindGroups,
      List.take_left' rfl, List.drop_left' rfl, ih, List.flatMap_cons]

/-! ### Rows that store records -/

/-- The row holds the record's values, each in the column of its field. -/
def Stores (t : EntityType) (r : Record) (cells : Cells) : Prop :=
  ∀ f ∈ t.fields, cells.cell f.column = (r.valueOf f.name).toStored

variable {t : EntityType} {r : Record} {cells : Cells}

theorem names_apart (t : EntityType) :
    (TableMapping.mk t).columns.Pairwise fun c d => c.name ≠ d.name :=
  t.columns_apart.imp fun apart same => apart (congrArg String.toLower same)

/-- A column that stores another field than the key. -/
theorem column_ne_key {f : Field} (declared : f ∈ t.fields) (other : f.name ≠ t.key.name) :
    f.column ≠ t.key.column := fun same =>
  other (congrArg Field.name
    (EntityType.field_eq_of_column declared t.wellFormed.keyDeclared same))

/-- The key column is not among those that an update writes. -/
theorem key_not_mem_valueColumns (t : EntityType) :
    t.key.column ∉ columnNames (TableMapping.mk t).valueColumns := by
  intro listed
  obtain ⟨c, member, named⟩ := List.mem_map.1 listed
  obtain ⟨column, other⟩ := List.mem_filter.1 member
  obtain ⟨g, declared, rfl⟩ := List.mem_map.1 column
  refine column_ne_key declared (fun key => ?_) named
  simp [EntityType.columnOf, key] at other

/-- The row that an insert makes of a record. -/
def newCells (t : EntityType) (r : Record) : Cells :=
  Cells.null.write (columnNames (TableMapping.mk t).insertColumns)
    (bound (TableMapping.mk t).insertColumns r)

theorem cell_newCells {f : Field} (declared : f ∈ t.fields)
    (given : (t.columnOf f).generated = false) :
    (newCells t r).cell f.column = (r.valueOf f.name).toStored := by
  have member : t.columnOf f ∈ (TableMapping.mk t).insertColumns :=
    List.mem_filter.2 ⟨List.mem_map_of_mem declared, by simp [given]⟩
  exact Cells.cell_write_of_mem ((names_apart t).filter _) member

theorem stores_newCells (known : t.assignment ≠ .backend) : Stores t r (newCells t r) :=
  fun f declared => cell_newCells declared (by simp [EntityType.columnOf, known])

/-- The row of a record whose key is generated holds the record with this key. -/
theorem stores_generated (r : Record) (n : Int64) :
    Stores t (t.withKey r (.int n)) ((newCells t r).write [t.key.column] [.int n]) := by
  intro f declared
  by_cases key : f.name = t.key.name
  · obtain rfl := EntityType.field_eq declared t.wellFormed.keyDeclared key
    simp [Cells.write, EntityType.withKey, Record.valueOf]
  · rw [Cells.cell_write_of_not_mem (by simpa using column_ne_key declared key),
      cell_newCells declared (by simp [EntityType.columnOf, key])]
    simp [EntityType.withKey, Record.valueOf, OrderedMap.get?_insert_of_ne _ _ (Ne.symm key)]

/-- An update makes a row hold the record, if the record carries the key of the row. -/
theorem stores_updated (carries : cells.cell t.key.column = (r.valueOf t.key.name).toStored) :
    Stores t r (cells.write (columnNames (TableMapping.mk t).valueColumns)
      (bound (TableMapping.mk t).valueColumns r)) := by
  intro f declared
  by_cases key : f.name = t.key.name
  · obtain rfl := EntityType.field_eq declared t.wellFormed.keyDeclared key
    exact (Cells.cell_write_of_not_mem (key_not_mem_valueColumns t)).trans carries
  · have member : t.columnOf f ∈ (TableMapping.mk t).valueColumns :=
      List.mem_filter.2 ⟨List.mem_map_of_mem declared, by simp [EntityType.columnOf, key]⟩
    exact Cells.cell_write_of_mem ((names_apart t).filter _) member

end IdentityMap.Sql
