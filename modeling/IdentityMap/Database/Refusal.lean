import IdentityMap.Text.Listed
/-!
# Refusals of a database

Why a database turns a statement down: its text does not fit the tables that are there, or the rows
that it would make break a rule.
-/

namespace IdentityMap

inductive Refusal
  | syntaxError
  | tooManyParameters
  | noSuchTable (table : String)
  /-- No table to be indexed. -/
  | noTableToIndex (table : String)
  | noSuchColumn (column : String)
  | noColumnToFill (table column : String)
  | valueCount (given needed : Nat)
  /-- The rows of an insert bring different numbers of values. -/
  | unevenRows
  | reservedName (name : String)
  | tableExists (name : String)
  | indexExists (name : String)
  /-- A table is to have the name of an index. -/
  | namedLikeIndex (name : String)
  | readOnly (table : String)
  | notIndexable (table : String)
  | repeatedColumn (column : String)
  | severalKeys (table : String)
  /-- Only an integer key counts by itself. -/
  | countingKey
  /-- The primary key is no column of the table. -/
  | keyExpression
  | parameterCount (given needed : Nat)
  | nullColumn (table column : String)
  | repeatedValues (table : String) (columns : List String)
  | repeatedEntry (index : String)
  | keyNotInteger
  /-- There is no row number left. -/
  | full
  | rowsReturned
deriving DecidableEq, Repr

namespace Refusal

def message : Refusal → String
  | syntaxError => "syntax error"
  | tooManyParameters => "too many SQL variables"
  | noSuchTable table => "no such table: " ++ table
  | noTableToIndex table => "no such table: main." ++ table
  | noSuchColumn column => "no such column: " ++ column
  | noColumnToFill table column => "table " ++ table ++ " has no column named " ++ column
  | valueCount given needed => toString given ++ " values for " ++ toString needed ++ " columns"
  | unevenRows => "all VALUES must have the same number of terms"
  | reservedName name => "object name reserved for internal use: " ++ name
  | tableExists name => "there is already a table named " ++ name
  | indexExists name => "index " ++ name ++ " already exists"
  | namedLikeIndex name => "there is already an index named " ++ name
  | readOnly table => "table " ++ table ++ " may not be modified"
  | notIndexable table => "table " ++ table ++ " may not be indexed"
  | repeatedColumn column => "duplicate column name: " ++ column
  | severalKeys table => "table \"" ++ table ++ "\" has more than one primary key"
  | countingKey => "AUTOINCREMENT is only allowed on an INTEGER PRIMARY KEY"
  | keyExpression => "expressions prohibited in PRIMARY KEY and UNIQUE constraints"
  | parameterCount given needed =>
    "Wrong number of parameters passed to query. Got " ++ toString given ++ ", needed "
      ++ toString needed
  | nullColumn table column => "NOT NULL constraint failed: " ++ table ++ "." ++ column
  | repeatedValues table columns =>
    "UNIQUE constraint failed: " ++ Text.listed (columns.map (table ++ "." ++ ·))
  | repeatedEntry index =>
    let name := index.toList.flatMap fun c => if c = '\x27' then [c, c] else [c]
    "UNIQUE constraint failed: index '" ++ String.ofList name ++ "'"
  | keyNotInteger => "datatype mismatch"
  | full => "database or disk is full"
  | rowsReturned => "Execute returned results - did you mean to call query?"

end Refusal

end IdentityMap
