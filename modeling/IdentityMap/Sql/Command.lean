/-!
# Commands

What the library asks of a row store, without the spelling: a command names tables and columns and
says how many parameters of which role it takes. A dialect writes it out as text.
-/

namespace IdentityMap.Sql

/-- One column of a table to be created. -/
inductive ColumnDef
  | plain (name type : String) (required : Bool)
  /-- The key column whose values the row store generates, with its whole definition. -/
  | generatedKey (name definition : String)
deriving DecidableEq, Repr

def ColumnDef.name : ColumnDef → String
  | plain name _ _ => name
  | generatedKey name _ => name

inductive Command
  /-- Create the table unless it exists. `key` is the primary key, if no column generates it. -/
  | createTable (table : String) (columns : List ColumnDef) (key : Option String)
  | createIndex (name table : String) (columns : List String) (unique clustered : Bool)
  /-- Insert `rows` rows; parameters are taken row by row, in the order of the columns. Without
  columns it inserts one row of defaults. `generated` is the key column to be reported back. -/
  | insert (table : String) (columns : List String) (rows : Nat) (generated : Option String)
  /-- The rows whose key is one of `count` parameters. -/
  | selectKeys (table : String) (columns : List String) (key : String) (count : Nat)
  /-- All rows, by key. -/
  | selectAll (table : String) (columns : List String) (key : String)
  | countRows (table : String)
  | maxKey (table key : String)
  /-- Set the columns from the parameters in order; the last parameter is the row's key. -/
  | update (table : String) (columns : List String) (key : String)
  /-- Delete the rows whose key is one of `count` parameters. -/
  | deleteKeys (table key : String) (count : Nat)
  | deleteAll (table : String)
deriving DecidableEq, Repr

/-- How many parameters the command takes. -/
def Command.paramCount : Command → Nat
  | insert _ columns rows _ => rows * columns.length
  | selectKeys _ _ _ count => count
  | update _ columns _ => columns.length + 1
  | deleteKeys _ _ count => count
  | _ => 0

end IdentityMap.Sql
