import IdentityMap.Database.Catalog
import IdentityMap.Database.Scan
import IdentityMap.Row
import IdentityMap.Sql.CommandText
/-!
# Commands on a database

A command is run in two steps. `Database.plan` finds the tables and columns that the command names,
and turns the command down where they do not fit. `Database.perform` does what was planned, as a
whole or not at all, and turns it down where rows would break a rule.
-/

namespace IdentityMap

/-- What a command does, with the objects it names. -/
inductive Plan
  | nothing
  | createTable (t : DataTable) (definition : String)
  | createIndex (t : DataTable) (index : DataIndex) (definition : String)
  | insert (t : DataTable) (targets : List Place) (rows : Nat)
  /-- The rows with one of some values in a place. -/
  | find (t : DataTable) (columns : List String) (shown : List Place) (key : Place)
  /-- All rows by the values of a place. -/
  | list (t : DataTable) (columns : List String) (shown : List Place) (key : Place)
  | count (t : DataTable)
  | largest (t : DataTable) (column : String) (key : Place)
  | update (t : DataTable) (targets : List Place) (key : Place)
  | delete (t : DataTable) (key : Place)
  | deleteAll (t : DataTable)

namespace Database

/-- The most parameters that a command may have. -/
def parameterLimit : Nat := 32766

/-- What the columns of an insert stand for. `name` is the table as the command calls it. -/
def insertTargets (t : DataTable) (name : String) : List String → Except Refusal (List Place)
  | [] => .ok []
  | column :: rest =>
    match t.place column with
    | .literal _ => .error (.noColumnToFill name column)
    | p => (insertTargets t name rest).map (p :: ·)

def updateTargets (t : DataTable) : List String → Except Refusal (List Place)
  | [] => .ok []
  | column :: rest =>
    match t.place column with
    | .literal _ => .error (.noSuchColumn column)
    | p => (updateTargets t rest).map (p :: ·)

/-- The name of a column of an answer: the declared one, or the text of the statement. -/
def shownName (t : DataTable) : Place → String
  | .column place => t.columnName place
  | .number => t.numberName
  | .literal text => Sql.Dialect.ansi.quote text

/-- The definition of a table, as the database lists it. -/
def tableText (name : String) (columns : List Sql.ColumnDef) (key : Option String) : String :=
  "CREATE TABLE " ++ Sql.Dialect.ansi.quote name ++ " ("
    ++ Sql.Dialect.ansi.tableDefinition columns key ++ ")"

def plan (command : Sql.Command) (db : Database) : Except Refusal Plan := do
  if parameterLimit < command.paramCount then throw .tooManyParameters
  match command with
  | .createTable name columns key =>
    if isReserved name then throw (.reservedName name)
    if (db.table? name).isSome then return .nothing
    if db.hasIndex name then throw (.namedLikeIndex name)
    return .createTable (← newTable name columns key) (tableText name columns key)
  | .createIndex name table columns unique _ =>
    let t ← db.indexable name table
    return .createIndex t (newIndex t name columns unique) (Sql.Dialect.ansi.render command)
  | .insert name columns rows _ =>
    let t ← db.writable name
    return .insert t (← insertTargets t name columns) rows
  | .selectKeys name columns key _ =>
    let t ← db.table name
    let shown := columns.map t.place
    return .find t (shown.map (shownName t)) shown (t.place key)
  | .selectAll name columns key =>
    let t ← db.table name
    let shown := columns.map t.place
    return .list t (shown.map (shownName t)) shown (t.place key)
  | .countRows name => return .count (← db.table name)
  | .maxKey name key =>
    let t ← db.table name
    return .largest t ("MAX(" ++ Sql.Dialect.ansi.quote key ++ ")") (t.place key)
  | .update name columns key =>
    let t ← db.writable name
    return .update t (← updateTargets t columns) (t.place key)
  | .deleteKeys name key _ =>
    let t ← db.writable name
    return .delete t (t.place key)
  | .deleteAll name => return .deleteAll (← db.writable name)

/-- Why an insert is turned down whose rows bring `width` values for other columns. -/
def misfit (db : Database) (name : String) (columns : List String) (width : Nat) : Refusal :=
  match (do insertTargets (← db.writable name) name columns : Except Refusal (List Place)) with
  | .error r => r
  | .ok _ => .valueCount width columns.length

/-- Rows of an answer, with the values of some places. -/
def answer (columns : List String) (shown : List Place) (rows : List NumberedRow) : List Row :=
  rows.map fun row => ⟨columns, shown.map fun p => (p.value row).toValue⟩

/-- The largest value, null if there is none. -/
def largestOf (values : List Stored) : Stored :=
  values.foldl (fun a b => if a.compare b = .lt then b else a) .null

/-- The outcome of a change that was to meet `count` rows of a table. -/
def settle (db : Database) (count : Nat) (result : Except Refusal DataTable) :
    Except Refusal (List Row) × Database :=
  match result with
  | .error r => (.error r, { db with changed := 0 })
  | .ok t => (.ok [], { db.withTable t with changed := count })

def performInsert (t : DataTable) (targets : List Place) (rows : Nat) (params : List Stored)
    (db : Database) : Except Refusal (List Row) × Database :=
  let (result, last) := t.insertRows targets rows params (db.usedNumber t) db.lastInserted
  let db := { db with lastInserted := last }
  match result with
  | .error r => db.settle rows (.error r)
  | .ok (changed, used) => (if t.counting then db.noteUsed t used else db).settle rows (.ok changed)

/-- Do what was planned; the rows of the answer. -/
def perform (p : Plan) (params : List Stored) (db : Database) :
    Except Refusal (List Row) × Database :=
  match p with
  | .nothing => (.ok [], db)
  | .createTable t definition => (.ok [], db.addTable t definition)
  | .createIndex t index definition =>
    if index.unique && t.hasRepetition index.parts then (.error (t.repetition index), db)
    else (.ok [], db.addIndex t index definition)
  | .insert t targets rows => performInsert t targets rows params db
  | .find t columns shown key =>
    (.ok (answer columns shown (t.found key params (key :: shown))), db)
  | .list t columns shown key =>
    (.ok (answer columns shown (t.listed key (key :: shown))), db)
  | .count t => (.ok [⟨["COUNT(*)"], [.int (Int64.ofNat t.rows.size)]⟩], db)
  | .largest t column key =>
    (.ok [⟨[column], [(largestOf (t.rows.entries.map fun row => key.value row)).toValue]⟩], db)
  | .update t targets key =>
    let rows := t.matching key (params.drop targets.length) t.rows.entries
    db.settle rows.length (t.updateRows (targets.zip params) rows)
  | .delete t key =>
    let rows := t.matching key params t.rows.entries
    db.settle rows.length (.ok (t.deleteRows rows))
  | .deleteAll t => db.settle t.rows.size (.ok { t with rows := .empty })

end Database

end IdentityMap
