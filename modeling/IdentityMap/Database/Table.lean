import IdentityMap.Database.Affinity
import IdentityMap.Database.Refusal
import IdentityMap.OrderedMap
import IdentityMap.Schema.EntityType
import IdentityMap.Sql.Dialect
/-!
# Tables of a database

A table keeps its rows by number. A primary key of type `INTEGER` is the row number itself, and a
row without one is numbered by the table. A table that counts gives out numbers above every one that
an insert has used, also after the rows with the largest numbers were deleted.

Before a row is stored, columns that must not be null are checked first, then the row number, then
the unique indexes, the latest one first.
-/

namespace IdentityMap

/-- What a name in a statement stands for in the rows of a table. -/
inductive Place
  | column (place : Nat)
  /-- The number of the row. -/
  | number
  /-- The name itself, as a text, when nothing in the table has it. -/
  | literal (text : String)
deriving DecidableEq, Repr

/-- A row with its number; the cells are in the order of the columns. -/
abbrev NumberedRow := Int64 × List Stored

def Place.value (row : NumberedRow) : Place → Stored
  | column place => row.2[place]?.getD .null
  | number => .integer row.1
  | literal text => .text text

structure DataIndex where
  name : String
  parts : List Place
  unique : Bool
deriving DecidableEq, Repr

structure DataTable where
  name : String
  columns : List Sql.ColumnDef
  /-- The place of the column that holds the row number. -/
  numbering : Option Nat
  /-- Row numbers are not given out twice. -/
  counting : Bool
  /-- The latest index first. -/
  indexes : List DataIndex
  rows : OrderedMap Int64 (List Stored)

namespace DataTable

/-! ### Names -/

/-- The place of a column. -/
def columnPlace? (columns : List Sql.ColumnDef) (name : String) : Option Nat :=
  columns.findIdx? fun c => sameColumn c.name name

/-- Names of the row number, where no column has them. -/
def isNumberName (name : String) : Bool := name.toLower ∈ ["rowid", "oid", "_rowid_"]

/-- What a name stands for in the rows. -/
def place (t : DataTable) (name : String) : Place :=
  match columnPlace? t.columns name with
  | some place => .column place
  | none => if isNumberName name then .number else .literal name

def columnName (t : DataTable) (place : Nat) : String :=
  (t.columns[place]?.map (·.name)).getD ""

/-- The name of the row number. -/
def numberName (t : DataTable) : String := (t.numbering.map t.columnName).getD "rowid"

def declaredType : Sql.ColumnDef → String
  | .plain _ type _ => type
  | .generatedKey name definition =>
    -- the word behind the quoted name
    let behind := definition.toList.drop ((Sql.Quoting.double.quote name).length + 1)
    String.ofList (behind.takeWhile (· ≠ ' '))

def affinity (t : DataTable) : Place → Affinity
  | .column place => Affinity.ofType ((t.columns[place]?.map declaredType).getD "")
  | .number => .numeric
  | .literal _ => .none

/-- The place is the row number, by whatever name. -/
def isNumber (t : DataTable) (p : Place) : Bool :=
  p = .number || t.numbering.map Place.column = some p

/-! ### Storing rows -/

/-- A row's cells as the columns keep them. -/
def fitted (t : DataTable) (number : Int64) (cells : List Stored) : List Stored :=
  let cells := (t.columns.zip cells).map fun (c, v) => (Affinity.ofType (declaredType c)).stored v
  match t.numbering with
  | some place => cells.set place (.integer number)
  | none => cells

/-- The first column that must hold something and does not. -/
def missing? (t : DataTable) (cells : List Stored) : Option String :=
  ((t.columns.zip cells).find? fun (c, v) =>
    match c with
    | .plain _ _ required => required && v = .null
    | .generatedKey _ _ => false).map (·.1.name)

/-- Two rows hold the same values at these places, none of them null. -/
def agree (parts : List Place) (a b : NumberedRow) : Bool :=
  parts.all fun p => (p.value a).matchesKey (p.value b)

/-- The columns of an index, unless it is about something else than columns. -/
def indexColumns? (t : DataTable) (parts : List Place) : Option (List String) :=
  parts.mapM fun p =>
    match p with
    | .column place => some (t.columnName place)
    | _ => none

/-- Two rows agree where an index forbids it. -/
def repetition (t : DataTable) (index : DataIndex) : Refusal :=
  match t.indexColumns? index.parts with
  | some columns => .repeatedValues t.name columns
  | none => .repeatedEntry index.name

/-- The unique index in which a row agrees with another one than that of the number `old`. -/
def repeated? (t : DataTable) (old : Option Int64) (row : NumberedRow) : Option DataIndex :=
  t.indexes.find? fun index =>
    index.unique && t.rows.entries.any fun e => old ≠ some e.1 && agree index.parts e row

/-- Store a row in place of the row with the number `old`, or as a new row. -/
def store (t : DataTable) (old : Option Int64) (number : Int64) (cells : List Stored) :
    Except Refusal DataTable := do
  let cells := t.fitted number cells
  if let some column := t.missing? cells then throw (.nullColumn t.name column)
  if old ≠ some number ∧ t.rows.contains number then
    throw (.repeatedValues t.name [t.numberName])
  if let some index := t.repeated? old (number, cells) then throw (t.repetition index)
  let rest := match old with
    | some n => t.rows.erase n
    | none => t.rows
  return { t with rows := rest.insert number cells }

/-- The number after one, unless there is none. -/
def successor (n : Int64) : Except Refusal Int64 :=
  if n = Int64.maxValue then .error .full else .ok (n + 1)

/-- The number for a row that brings none; `used` is the largest one that a counting table has given
out. -/
def nextNumber (t : DataTable) (used : Int64) : Except Refusal Int64 := do
  let above ← match t.rows.keys.getLast? with
    | none => pure 1
    | some last => successor last
  if t.counting then return max above (← successor used) else return above

/-- What some values say about the number of their row. The last one of them counts. -/
def givenNumber? (t : DataTable) (given : List (Place × Stored)) : Option Stored :=
  (given.reverse.find? fun (p, _) => t.isNumber p).map (·.2)

/-- Insert one row; the table and the row's number. Of two values for a column the first counts, and
columns without a value are null. -/
def insertRow (t : DataTable) (given : List (Place × Stored)) (used : Int64) :
    Except Refusal (Int64 × DataTable) := do
  let number ← match (t.givenNumber? given).getD .null with
    | .null => t.nextNumber used
    | v =>
      match Affinity.rowNumber? v with
      | some n => pure n
      | none => throw .keyNotInteger
  let cells := (List.range t.columns.length).map fun place =>
    (given.lookup (.column place)).getD .null
  return (number, ← t.store none number cells)

/-- Insert rows whose values stand one row after the other. `used` is the largest row number given
out and `last` that of the latest insert; both are followed, `last` also when a row is refused. -/
def insertRows (t : DataTable) (targets : List Place) :
    (rows : Nat) → List Stored → (used last : Int64) →
      Except Refusal (DataTable × Int64) × Int64
  | 0, _, used, last => (.ok (t, used), last)
  | rows + 1, values, used, last =>
    match t.insertRow (targets.zip values) used with
    | .error r => (.error r, last)
    | .ok (number, t) =>
      t.insertRows targets rows (values.drop targets.length) (max used number) number

/-- Change a row. Of two values for a column the last counts. -/
def updateRow (t : DataTable) (given : List (Place × Stored)) (row : NumberedRow) :
    Except Refusal DataTable := do
  let number ← match t.givenNumber? given with
    | none => pure row.1
    | some v =>
      match Affinity.rowNumber? v with
      | some n => pure n
      | none => throw .keyNotInteger
  let cells := (List.range t.columns.length).map fun place =>
    (given.reverse.lookup (.column place)).getD (Place.value row (.column place))
  t.store (some row.1) number cells

def updateRows (t : DataTable) (given : List (Place × Stored)) :
    List NumberedRow → Except Refusal DataTable
  | [] => .ok t
  | row :: rest =>
    match t.updateRow given row with
    | .error r => .error r
    | .ok t => t.updateRows given rest

def deleteRows (t : DataTable) (rows : List NumberedRow) : DataTable :=
  { t with rows := rows.foldl (fun kept row => kept.erase row.1) t.rows }

/-- Some two rows agree where the index forbids it. -/
def hasRepetition (t : DataTable) (parts : List Place) : Bool :=
  t.rows.entries.any fun e => t.rows.entries.any fun f => e.1 ≠ f.1 && agree parts e f

/-! ### Finding rows -/

/-- The rows in which a place holds one of some values. -/
def matching (t : DataTable) (p : Place) (values : List Stored) (rows : List NumberedRow) :
    List NumberedRow :=
  let values := values.map (t.affinity p).compared
  rows.filter fun row => values.any (p.value row).matchesKey

end DataTable

end IdentityMap
