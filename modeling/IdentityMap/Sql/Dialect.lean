import IdentityMap.Schema.EntityType
import IdentityMap.Sql.Command
import IdentityMap.Text.Listed
/-!
# Dialects

A dialect is the part of SQL that differs between row stores: quoting, placeholders, the names of
types, generated keys, and limits. `Dialect.render` writes a command out. Values never stand in the
text: each is a placeholder, and names are always quoted.
-/

namespace IdentityMap.Sql

/-- How an identifier is set apart from the text around it. A closing character inside it is
written twice. -/
structure Quoting where
  opening : Char
  closing : Char
deriving DecidableEq, Repr

namespace Quoting

/-- The quoting of the standard. -/
def double : Quoting := ⟨'"', '"'⟩

def graves : Quoting := ⟨Char.ofNat 0x60, Char.ofNat 0x60⟩

def brackets : Quoting := ⟨'[', ']'⟩

def quote (q : Quoting) (identifier : String) : String :=
  String.ofList
    (q.opening :: identifier.toList.flatMap (fun c => if c = q.closing then [c, c] else [c])
      ++ [q.closing])

end Quoting

/-- How a parameter is written. -/
inductive Placeholder
  | question
  /-- A mark before the parameter's position, counted from one. -/
  | numbered (mark : String)
deriving DecidableEq, Repr

def Placeholder.text : Placeholder → (position : Nat) → String
  | question, _ => "?"
  | numbered mark, position => mark ++ toString position

/-- How a table is created only where it does not exist. -/
inductive TableGuard
  | ifNotExists
  /-- A test for the object's name in front of the statement. -/
  | objectTest
deriving DecidableEq, Repr

/-- How a row of defaults is inserted. -/
inductive EmptyInsert
  | defaultValues
  | emptyLists
deriving DecidableEq, Repr

structure Dialect where
  name : String
  quoting : Quoting := .double
  placeholder : Placeholder := .question
  /-- The name of a scalar type, if the dialect has it. -/
  nativeType : ScalarType → Option String
  /-- The whole definition of a key column whose values the row store generates. -/
  generatedKey : (name : String) → ScalarType → String
  /-- An insert can yield the generated key as a row. -/
  returnsKey : Bool := false
  tableGuard : TableGuard := .ifNotExists
  emptyInsert : EmptyInsert := .defaultValues
  clusteredIndexes : Bool := false
  multiRowInsert : Bool := true
  /-- The most parameters a statement takes. -/
  maxParams : Nat := 32766
  /-- The most rows an insert takes, where there is a limit. -/
  maxRows : Option Nat := none

/-- Stands in a definition for a type that the dialect does not have. -/
def unknownType : String := "UNKNOWN_TYPE"

namespace Dialect

def quote (d : Dialect) (identifier : String) : String := d.quoting.quote identifier

def quoteAll (d : Dialect) (identifiers : List String) : String :=
  Text.listed (identifiers.map d.quote)

/-- `count` placeholders, the first at `position`. -/
def placeholders (d : Dialect) (position count : Nat) : String :=
  Text.listed ((List.range' position count).map d.placeholder.text)

/-- What is left of a quoted name when the brackets at its ends are taken off. -/
def withoutBrackets (quoted : String) : List Char :=
  ((quoted.toList.dropWhile (· = '[')).reverse.dropWhile (· = ']')).reverse

/-- The opening of a statement that creates a table where it does not exist. -/
def createTableOpening (d : Dialect) (quotedTable : String) : String :=
  match d.tableGuard with
  | .ifNotExists => "CREATE TABLE IF NOT EXISTS " ++ quotedTable
  | .objectTest =>
    let literal := (withoutBrackets quotedTable).flatMap fun c => if c = '\x27' then [c, c] else [c]
    "IF OBJECT_ID(N'" ++ String.ofList literal ++ "', N'U') IS NULL CREATE TABLE " ++ quotedTable

/-- The insert of a row of defaults. -/
def insertDefaults (d : Dialect) (quotedTable : String) : String :=
  match d.emptyInsert with
  | .defaultValues => "INSERT INTO " ++ quotedTable ++ " DEFAULT VALUES"
  | .emptyLists => "INSERT INTO " ++ quotedTable ++ " () VALUES ()"

/-- What makes an insert yield the generated key. -/
def returningClause (d : Dialect) (quotedKey : String) : Option String :=
  if d.returnsKey then some (" RETURNING " ++ quotedKey) else none

def columnDefinition (d : Dialect) : ColumnDef → String
  | .plain name type required =>
    d.quote name ++ " " ++ type ++ (if required then " NOT NULL" else "")
  | .generatedKey _ definition => definition

def tableDefinition (d : Dialect) (columns : List ColumnDef) (key : Option String) : String :=
  Text.listed
    (columns.map d.columnDefinition
      ++ (key.map fun key => "PRIMARY KEY (" ++ d.quote key ++ ")").toList)

/-- The kinds of an index, each followed by a space. -/
def indexKinds (d : Dialect) (unique clustered : Bool) : String :=
  (if unique then "UNIQUE " else "")
    ++ (if d.clusteredIndexes then (if clustered then "CLUSTERED " else "NONCLUSTERED ") else "")

/-- The condition that the key is one of `count` parameters. -/
def keyCondition (d : Dialect) (key : String) (count : Nat) : String :=
  if count = 1 then d.quote key ++ " = " ++ d.placeholder.text 1
  else d.quote key ++ " IN (" ++ d.placeholders 1 count ++ ")"

/-- Groups of placeholders for `rows` rows of `width` parameters. -/
def rowGroups (d : Dialect) (width rows : Nat) : String :=
  Text.listed ((List.range rows).map fun r => "(" ++ d.placeholders (r * width + 1) width ++ ")")

def assignment (d : Dialect) (column : String) (position : Nat) : String :=
  d.quote column ++ " = " ++ d.placeholder.text position

/-- A command in the dialect's spelling. -/
def render (d : Dialect) : Command → String
  | .createTable table columns key =>
    d.createTableOpening (d.quote table) ++ " (" ++ d.tableDefinition columns key ++ ")"
  | .createIndex name table columns unique clustered =>
    "CREATE " ++ d.indexKinds unique clustered ++ "INDEX " ++ d.quote name ++ " ON "
      ++ d.quote table ++ " (" ++ d.quoteAll columns ++ ")"
  | .insert table columns rows generated =>
    (if columns = [] then d.insertDefaults (d.quote table)
      else "INSERT INTO " ++ d.quote table ++ " (" ++ d.quoteAll columns ++ ") VALUES "
        ++ d.rowGroups columns.length rows)
      ++ ((generated.bind fun key => d.returningClause (d.quote key)).getD "")
  | .selectKeys table columns key count =>
    "SELECT " ++ d.quoteAll columns ++ " FROM " ++ d.quote table ++ " WHERE "
      ++ d.keyCondition key count
  | .selectAll table columns key =>
    "SELECT " ++ d.quoteAll columns ++ " FROM " ++ d.quote table ++ " ORDER BY " ++ d.quote key
  | .countRows table => "SELECT COUNT(*) FROM " ++ d.quote table
  | .maxKey table key => "SELECT MAX(" ++ d.quote key ++ ") FROM " ++ d.quote table
  | .update table columns key =>
    "UPDATE " ++ d.quote table ++ " SET "
      ++ Text.listed (columns.mapIdx fun i column => d.assignment column (i + 1))
      ++ " WHERE " ++ d.assignment key (columns.length + 1)
  | .deleteKeys table key count =>
    "DELETE FROM " ++ d.quote table ++ " WHERE " ++ d.keyCondition key count
  | .deleteAll table => "DELETE FROM " ++ d.quote table

end Dialect

end IdentityMap.Sql
