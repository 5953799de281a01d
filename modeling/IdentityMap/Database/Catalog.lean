import IdentityMap.Database.Table
import IdentityMap.Sql.Dialects
/-!
# The objects of a database

A database holds tables, each with its indexes, under names that differ in more than the case of
letters. It describes them itself: one table lists all objects in the order in which they were
created, and another one, which comes with the first table that counts, holds the largest row number
that each counting table has given out. Names that start with `sqlite_` are the database's own.
-/

namespace IdentityMap

/-- An object as the database lists it. Indexes that come with a table have no definition. -/
structure DataObject where
  kind : String
  name : String
  table : String
  definition : Option String
deriving DecidableEq, Repr

structure Database where
  /-- The tables by their names in lower case. -/
  tables : OrderedMap String DataTable := .empty
  objects : List DataObject := []
  /-- The number of the row that was inserted last since the database was opened. -/
  lastInserted : Int64 := 0
  /-- How many rows the last command that changes rows met since the database was opened. -/
  changed : Nat := 0
  /-- The commands that were prepared last, the latest one first. -/
  prepared : List Sql.Command := []

namespace Database

/-- The database as it is found when it is opened again. -/
def reopen (db : Database) : Database := { tables := db.tables, objects := db.objects }

def untyped (name : String) : Sql.ColumnDef := .plain name "" false

/-- The list of all objects as a table. Every object has a page of its own, the first one the
second page of the database. -/
def objectTable (name : String) (objects : List DataObject) : DataTable where
  name
  columns := [.plain "type" "TEXT" false, .plain "name" "TEXT" false,
    .plain "tbl_name" "TEXT" false, .plain "rootpage" "INT" false, .plain "sql" "TEXT" false]
  numbering := none
  counting := false
  indexes := []
  rows := .ofList (objects.mapIdx fun i o =>
    (Int64.ofNat (i + 1),
      [.text o.kind, .text o.name, .text o.table, .integer (Int64.ofNat (i + 2)),
        (o.definition.map Stored.text).getD .null]))

def objectTableName : String := "sqlite_master"

/-- The list of the objects that are there for a time only: there are none. -/
def passingTableName : String := "sqlite_temp_master"

def isReserved (name : String) : Bool := "sqlite_".toList.isPrefixOf name.toLower.toList

/-- The table of a name, one of the database's own included. -/
def table? (db : Database) (name : String) : Option DataTable :=
  let lower := name.toLower
  if lower ∈ [objectTableName, "sqlite_schema"] then some (objectTable objectTableName db.objects)
  else if lower ∈ [passingTableName, "sqlite_temp_schema"] then
    some (objectTable passingTableName [])
  else db.tables.get? lower

def table (db : Database) (name : String) : Except Refusal DataTable :=
  match db.table? name with
  | some t => .ok t
  | none => .error (.noSuchTable name)

/-- A table whose rows may be changed. -/
def writable (db : Database) (name : String) : Except Refusal DataTable := do
  let t ← db.table name
  if t.name = objectTableName ∨ t.name = passingTableName then throw (.readOnly t.name)
  return t

def hasIndex (db : Database) (name : String) : Bool :=
  db.tables.values.any fun t => t.indexes.any fun index => sameColumn index.name name

def withTable (db : Database) (t : DataTable) : Database :=
  { db with tables := db.tables.insert t.name.toLower t }

/-! ### Counting tables -/

def sequenceTableName : String := "sqlite_sequence"

def sequenceTable : DataTable where
  name := sequenceTableName
  columns := [untyped "name", untyped "seq"]
  numbering := none
  counting := false
  indexes := []
  rows := .empty

/-- The integer that a value starts with. -/
def leadingInteger : Stored → Int64
  | .integer n => n
  | .real x =>
    let size := x.magnitude.1 * Nat.pow 2 x.magnitude.2.toNat / Nat.pow 2 (-x.magnitude.2).toNat
    if Nat.pow 2 63 ≤ size then (if x.negative then Int64.minValue else Int64.maxValue)
    else Int64.ofInt (if x.negative then -size else size)
  | .text s =>
    let (negative, digits) := Numeral.splitSign (s.toList.dropWhile Numeral.isSpace)
    let size := Numeral.valueOf (digits.takeWhile Char.isDigit)
    if Nat.pow 2 63 ≤ size then (if negative then Int64.minValue else Int64.maxValue)
    else Int64.ofInt (if negative then -size else size)
  | _ => 0

/-- The entry of a counting table among the largest row numbers. -/
def sequenceEntry? (db : Database) (t : DataTable) : Option NumberedRow :=
  (db.tables.get? sequenceTableName).bind fun entries =>
    entries.rows.entries.find? fun e => Place.value e (.column 0) = .text t.name

/-- The largest row number that a counting table has given out. -/
def usedNumber (db : Database) (t : DataTable) : Int64 :=
  match db.sequenceEntry? t with
  | some e => leadingInteger (Place.value e (.column 1))
  | none => 0

/-- Note the largest row number that a counting table has given out by now. -/
def noteUsed (db : Database) (t : DataTable) (used : Int64) : Database :=
  match db.tables.get? sequenceTableName with
  | none => db
  | some entries =>
    let place := match db.sequenceEntry? t with
      | some e => if db.usedNumber t < used then some e.1 else none
      | none => some ((entries.rows.keys.getLast?.getD 0) + 1)
    match place with
    | none => db
    | some number =>
      db.withTable
        { entries with rows := entries.rows.insert number [.text t.name, .integer used] }

/-! ### Creating objects -/

/-- Check the columns of a new table one after the other. `keyed` says that an earlier one is the
primary key. -/
def checkColumns (name : String) : (keyed : Bool) → (seen : List Sql.ColumnDef) →
    List Sql.ColumnDef → Except Refusal Bool
  | keyed, _, [] => .ok keyed
  | keyed, seen, c :: rest =>
    if seen.any fun d => sameColumn d.name c.name then .error (.repeatedColumn c.name)
    else
      match c with
      | .plain _ _ _ => checkColumns name keyed (c :: seen) rest
      | .generatedKey _ _ =>
        if keyed then .error (.severalKeys name)
        else if (DataTable.declaredType c).toUpper = "INTEGER" then
          checkColumns name true (c :: seen) rest
        else .error .countingKey

def isGenerated : Sql.ColumnDef → Bool
  | .generatedKey _ _ => true
  | .plain _ _ _ => false

/-- A new table. A primary key that is no integer comes with an index of its own. -/
def newTable (name : String) (columns : List Sql.ColumnDef) (key : Option String) :
    Except Refusal DataTable := do
  let keyed ← checkColumns name false [] columns
  let plain : DataTable :=
    { name, columns, numbering := none, counting := false, indexes := [], rows := .empty }
  match key with
  | none => return { plain with numbering := columns.findIdx? isGenerated, counting := keyed }
  | some key =>
    if keyed then throw (.severalKeys name)
    match DataTable.columnPlace? columns key with
    | none => throw .keyExpression
    | some place =>
      if (columns[place]?.map fun c => (DataTable.declaredType c).toUpper) = some "INTEGER" then
        return { plain with numbering := some place }
      else
        let index : DataIndex :=
          { name := "sqlite_autoindex_" ++ name ++ "_1", parts := [.column place], unique := true }
        return { plain with indexes := [index] }

/-- Add a new table, along with what it needs. -/
def addTable (db : Database) (t : DataTable) (definition : String) : Database :=
  let own : List DataObject :=
    ⟨"table", t.name, t.name, some definition⟩
      :: t.indexes.map fun index => ⟨"index", index.name, t.name, none⟩
  let db := { db.withTable t with objects := db.objects ++ own }
  if t.counting ∧ db.tables.contains sequenceTableName = false then
    { db.withTable sequenceTable with
      objects := db.objects ++ [⟨"table", sequenceTableName, sequenceTableName,
        some "CREATE TABLE sqlite_sequence(name,seq)"⟩] }
  else db

/-- The index of a name over columns of a table. -/
def newIndex (t : DataTable) (name : String) (columns : List String) (unique : Bool) : DataIndex :=
  { name, unique, parts := columns.map fun column =>
      match DataTable.columnPlace? t.columns column with
      | some place => .column place
      | none => .literal column }

def addIndex (db : Database) (t : DataTable) (index : DataIndex) (definition : String) : Database :=
  { db.withTable { t with indexes := index :: t.indexes } with
    objects := db.objects ++ [⟨"index", index.name, t.name, some definition⟩] }

/-- The table that a new index of a name may be about. -/
def indexable (db : Database) (index table : String) : Except Refusal DataTable :=
  match db.table? table with
  | none => .error (.noTableToIndex table)
  | some t =>
    if isReserved t.name then .error (.notIndexable t.name)
    else if isReserved index then .error (.reservedName index)
    else if (db.table? index).isSome then .error (.tableExists index)
    else if db.hasIndex index then .error (.indexExists index)
    else .ok t

end Database

end IdentityMap
