import IdentityMap.Mapping.Table
import IdentityMap.Sql.Dialects
/-!
# Statements

The statements that read and write the table of an entity type. A statement is a command together
with its text and the fields that feed its parameters, in the order of the placeholders; binding a
record lists the values of those fields.
-/

namespace IdentityMap.Sql

structure Statement where
  command : Command
  sql : String
  /-- The field behind each placeholder. -/
  fields : List String := []
  /-- How many rows of values the statement takes. -/
  rows : Nat := 1

namespace Statement

def paramCount (s : Statement) : Nat := s.fields.length

/-- The parameters from one record; a field without a value is null. -/
def bind (s : Statement) (r : Record) : List Value := s.fields.map (Record.valueOf r)

/-- Fields in groups of `width`, the first group fed by the first record. -/
def bindGroups (width : Nat) : (fields : List String) → List Record → List Value
  | _, [] => []
  | fields, r :: rest =>
    (fields.take width).map (Record.valueOf r) ++ bindGroups width (fields.drop width) rest

/-- The parameters from one record per row. -/
def bindMany (s : Statement) (records : List Record) : Except Error (List Value) :=
  if records.length = s.rows then .ok (bindGroups (s.fields.length / s.rows) s.fields records)
  else .error (.illegal (.recordCount s.rows records.length))

end Statement

namespace Dialect

def statement (d : Dialect) (command : Command) (fields : List String) (rows : Nat) : Statement :=
  { command, sql := d.render command, fields, rows }

/-- The dialect's name for the type of a column, or the mark of an unknown type. -/
def columnType (d : Dialect) (c : Column) : String := (d.nativeType c.type).getD unknownType

/-- The columns whose types the dialect does not have. -/
def unmappedColumns (d : Dialect) (m : TableMapping) : List Column :=
  m.columns.filter fun c => (d.nativeType c.type).isNone

def columnDef (d : Dialect) (c : Column) : ColumnDef :=
  if c.generated then .generatedKey c.name (d.generatedKey c.name c.type)
  else .plain c.name (d.columnType c) (!c.nullable)

def createTable (d : Dialect) (m : TableMapping) : Statement :=
  let key := if m.keyColumn.generated then none else some m.keyColumn.name
  d.statement (.createTable m.table (m.columns.map d.columnDef) key) [] 1

/-- The statement for one index, if the dialect has the kind of index. -/
def createIndex (d : Dialect) (table : String) (index : Index) (columns : List String) :
    Except Error Statement :=
  if index.clustered ∧ d.clusteredIndexes = false then
    .error (.unsupported d.name ("clustered index '" ++ index.name ++ "'"))
  else
    .ok (d.statement (.createIndex index.name table columns index.unique index.clustered) [] 1)

/-- The columns of the named fields. -/
def indexColumns (m : TableMapping) : List String → Except Error (List String)
  | [] => .ok []
  | field :: rest =>
    match m.columnFor? field with
    | none => .error (.unmappedType (m.table ++ "." ++ field))
    | some c => (indexColumns m rest).map (c.name :: ·)

def createIndexesFrom (d : Dialect) (m : TableMapping) : List Index → Except Error (List Statement)
  | [] => .ok []
  | index :: rest =>
    match indexColumns m index.fields with
    | .error e => .error e
    | .ok columns =>
      match d.createIndex m.table index columns with
      | .error e => .error e
      | .ok s => (createIndexesFrom d m rest).map (s :: ·)

/-- The statements for the declared indexes, in declared order. -/
def createIndexes (d : Dialect) (m : TableMapping) : Except Error (List Statement) :=
  d.createIndexesFrom m m.entityType.indexes

def columnNames (columns : List Column) : List String := columns.map Column.name

def fieldNames (columns : List Column) : List String := columns.map Column.field

def keyFields (m : TableMapping) (count : Nat) : List String :=
  List.replicate count m.keyColumn.field

def selectKeys (d : Dialect) (m : TableMapping) (count : Nat) : Except Error Statement :=
  if count = 0 then .error (.illegal .emptyKeyList)
  else
    .ok (d.statement (.selectKeys m.table (columnNames m.columns) m.keyColumn.name count)
      (keyFields m count) 1)

def selectAll (d : Dialect) (m : TableMapping) : Statement :=
  d.statement (.selectAll m.table (columnNames m.columns) m.keyColumn.name) [] 1

def countRows (d : Dialect) (m : TableMapping) : Statement :=
  d.statement (.countRows m.table) [] 1

def maxKey (d : Dialect) (m : TableMapping) : Statement :=
  d.statement (.maxKey m.table m.keyColumn.name) [] 1

/-- The key column to be reported back by an insert, if the row store generates it. -/
def generatedKeyOf (m : TableMapping) : Option String :=
  if m.keyColumn.generated then some m.keyColumn.name else none

/-- The insert of one row. -/
def insert (d : Dialect) (m : TableMapping) : Statement :=
  d.statement (.insert m.table (columnNames m.insertColumns) 1 (generatedKeyOf m))
    (fieldNames m.insertColumns) 1

/-- How many rows go into one insert: as many as the batch allows and the dialect's limits admit,
and at least one. -/
def rowsPerInsert (d : Dialect) (m : TableMapping) (batch : Nat) : Nat :=
  let width := max m.insertColumns.length 1
  let byParams := min batch (d.maxParams / width)
  max 1 (match d.maxRows with
    | some limit => min byParams limit
    | none => byParams)

/-- `rows` rows are more than the dialect takes in one insert. -/
def exceedsRows (d : Dialect) (rows : Nat) : Bool :=
  match d.maxRows with
  | some limit => limit < rows
  | none => false

/-- The insert of several rows, whose keys are known. -/
def insertMany (d : Dialect) (m : TableMapping) (rows : Nat) : Except Error Statement :=
  let width := m.insertColumns.length
  if rows = 0 then .error (.illegal .noRows)
  else if d.multiRowInsert = false then .error (.unsupported d.name "multi-row insert")
  else if width = 0 then .error (.illegal (.noInsertColumns m.table))
  else if d.exceedsRows rows ∨ d.maxParams < rows * width then
    .error (.unsupported d.name
      ("insert of " ++ toString rows ++ " rows with " ++ toString (rows * width) ++ " parameters"))
  else
    .ok (d.statement (.insert m.table (columnNames m.insertColumns) rows none)
      (List.replicate rows (fieldNames m.insertColumns)).flatten rows)

/-- The update of every column besides the key's, if there is one. -/
def update (d : Dialect) (m : TableMapping) : Option Statement :=
  if m.valueColumns = [] then none
  else
    some (d.statement (.update m.table (columnNames m.valueColumns) m.keyColumn.name)
      (fieldNames m.valueColumns ++ [m.keyColumn.field]) 1)

def deleteKeys (d : Dialect) (m : TableMapping) (count : Nat) : Except Error Statement :=
  if count = 0 then .error (.illegal .emptyKeyList)
  else .ok (d.statement (.deleteKeys m.table m.keyColumn.name count) (keyFields m count) 1)

def deleteAll (d : Dialect) (m : TableMapping) : Statement :=
  d.statement (.deleteAll m.table) [] 1

/-! ### When a statement is produced -/

/-- The names of the columns that store the fields. -/
def columnNamesFor (m : TableMapping) (fields : List String) : List String :=
  fields.filterMap fun field => (m.columnFor? field).map Column.name

section Produced

variable {d : Dialect} {m : TableMapping} {count rows : Nat} {s : Statement}

theorem eq_of_indexColumns_eq_ok {fields columns : List String}
    (produced : indexColumns m fields = .ok columns) : columns = columnNamesFor m fields := by
  induction fields generalizing columns with
  | nil => exact (Except.ok.inj produced).symm
  | cons field fields ih =>
    rw [indexColumns] at produced
    cases column : m.columnFor? field with
    | none => simp [column] at produced
    | some c =>
      cases rest : indexColumns m fields with
      | error e => simp [column, rest, Except.map] at produced
      | ok others =>
        have joined : c.name :: others = columns := by
          simpa [column, rest, Except.map] using produced
        simp [← joined, columnNamesFor, column, ih rest]

theorem eq_of_createIndex_eq_ok {table : String} {index : Index} {columns : List String}
    (produced : d.createIndex table index columns = .ok s) :
    s = d.statement (.createIndex index.name table columns index.unique index.clustered) [] 1 := by
  unfold createIndex at produced
  split at produced
  · cases produced
  · exact (Except.ok.inj produced).symm

theorem eq_of_createIndexesFrom_eq_ok {indexes : List Index} {statements : List Statement}
    (produced : d.createIndexesFrom m indexes = .ok statements) :
    statements = indexes.map fun index =>
      d.statement (.createIndex index.name m.table (columnNamesFor m index.fields) index.unique
        index.clustered) [] 1 := by
  induction indexes generalizing statements with
  | nil => exact (Except.ok.inj produced).symm
  | cons index indexes ih =>
    rw [createIndexesFrom] at produced
    cases columns : indexColumns m index.fields with
    | error e => simp [columns] at produced
    | ok names =>
      cases first : d.createIndex m.table index names with
      | error e => simp [columns, first] at produced
      | ok s =>
        cases rest : d.createIndexesFrom m indexes with
        | error e => simp [columns, first, rest, Except.map] at produced
        | ok others =>
          have joined : s :: others = statements := by
            simpa [columns, first, rest, Except.map] using produced
          rw [← joined, ih rest, eq_of_createIndex_eq_ok first, eq_of_indexColumns_eq_ok columns]
          rfl

theorem eq_of_selectKeys_eq_ok (produced : d.selectKeys m count = .ok s) :
    s = d.statement (.selectKeys m.table (columnNames m.columns) m.keyColumn.name count)
      (keyFields m count) 1 := by
  unfold selectKeys at produced
  split at produced
  · cases produced
  · exact (Except.ok.inj produced).symm

theorem eq_of_deleteKeys_eq_ok (produced : d.deleteKeys m count = .ok s) :
    s = d.statement (.deleteKeys m.table m.keyColumn.name count) (keyFields m count) 1 := by
  unfold deleteKeys at produced
  split at produced
  · cases produced
  · exact (Except.ok.inj produced).symm

theorem eq_of_insertMany_eq_ok (produced : d.insertMany m rows = .ok s) :
    s = d.statement (.insert m.table (columnNames m.insertColumns) rows none)
      (List.replicate rows (fieldNames m.insertColumns)).flatten rows := by
  simp only [insertMany] at produced
  split at produced
  · cases produced
  split at produced
  · cases produced
  split at produced
  · cases produced
  split at produced
  · cases produced
  · exact (Except.ok.inj produced).symm

theorem eq_of_update_eq_some (produced : d.update m = some s) :
    s = d.statement (.update m.table (columnNames m.valueColumns) m.keyColumn.name)
      (fieldNames m.valueColumns ++ [m.keyColumn.field]) 1 := by
  unfold update at produced
  split at produced
  · cases produced
  · exact (Option.some.inj produced).symm

end Produced

end Dialect

end IdentityMap.Sql
