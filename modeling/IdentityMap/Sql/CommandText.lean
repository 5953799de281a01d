import IdentityMap.Sql.Dialect
import IdentityMap.Sql.Token
/-!
# Commands from their text

Reads the statements that the library writes in the spelling with double quotes and question marks.
-/

namespace IdentityMap.Sql

/-- What a text spells out. -/
inductive Reading
  | command (c : Command)
  /-- An insert each of whose rows brings `width` values, which are not as many as the columns. -/
  | misfit (table : String) (columns : List String) (width : Nat)
  /-- An insert whose rows bring different numbers of values. -/
  | uneven
deriving DecidableEq, Repr

namespace Command

/-- Names with commas between them, up to a closing bracket. -/
def readNames : List Token → Option (List String × List Token)
  | .name a :: .mark ',' :: rest => (readNames rest).map fun (names, rest) => (a :: names, rest)
  | .name a :: .mark ')' :: rest => some ([a], rest)
  | _ => none

/-- Names with commas between them, up to the word before a table. -/
def readSelected : List Token → Option (List String × List Token)
  | .name a :: .mark ',' :: rest => (readSelected rest).map fun (names, rest) => (a :: names, rest)
  | .name a :: .word "FROM" :: rest => some ([a], rest)
  | _ => none

/-- Placeholders with commas between them, up to a closing bracket; how many there are. -/
def readPlaceholders : List Token → Option (Nat × List Token)
  | .mark '?' :: .mark ',' :: rest =>
    (readPlaceholders rest).map fun (count, rest) => (count + 1, rest)
  | .mark '?' :: .mark ')' :: rest => some (1, rest)
  | _ => none

/-- Groups of placeholders up to the end; how many there are in each. -/
def readGroups : (fuel : Nat) → List Token → Option (List Nat)
  | 0, _ => none
  | fuel + 1, tokens =>
    match tokens with
    | .mark '(' :: rest =>
      match readPlaceholders rest with
      | some (count, []) => some [count]
      | some (count, .mark ',' :: rest) => (readGroups fuel rest).map (count :: ·)
      | _ => none
    | _ => none

/-- Columns and the primary key of a table, up to the end. -/
def readColumns : List Token → Option (List ColumnDef × Option String)
  | [.word "PRIMARY", .word "KEY", .mark '(', .name key, .mark ')', .mark ')'] =>
    some ([], some key)
  | .name c :: .word type :: .word "PRIMARY" :: .word "KEY" :: .word "AUTOINCREMENT" :: rest =>
    let column := ColumnDef.generatedKey c
      (Quoting.double.quote c ++ " " ++ type ++ " PRIMARY KEY AUTOINCREMENT")
    match rest with
    | [.mark ')'] => some ([column], none)
    | .mark ',' :: rest => (readColumns rest).map fun (columns, key) => (column :: columns, key)
    | _ => none
  | .name c :: .word type :: .word "NOT" :: .word "NULL" :: rest =>
    match rest with
    | [.mark ')'] => some ([.plain c type true], none)
    | .mark ',' :: rest =>
      (readColumns rest).map fun (columns, key) => (.plain c type true :: columns, key)
    | _ => none
  | .name c :: .word type :: rest =>
    match rest with
    | [.mark ')'] => some ([.plain c type false], none)
    | .mark ',' :: rest =>
      (readColumns rest).map fun (columns, key) => (.plain c type false :: columns, key)
    | _ => none
  | _ => none

/-- Assignments of placeholders to columns, up to the condition. -/
def readAssignments : List Token → Option (List String × List Token)
  | .name c :: .mark '=' :: .mark '?' :: .mark ',' :: rest =>
    (readAssignments rest).map fun (columns, rest) => (c :: columns, rest)
  | .name c :: .mark '=' :: .mark '?' :: .word "WHERE" :: rest => some ([c], rest)
  | _ => none

/-- A condition on a key, up to the end: the key column and the number of placeholders. -/
def readCondition : List Token → Option (String × Nat)
  | [.name key, .mark '=', .mark '?'] => some (key, 1)
  | .name key :: .word "IN" :: .mark '(' :: rest =>
    match readPlaceholders rest with
    | some (count, []) => some (key, count)
    | _ => none
  | _ => none

def readIndex (unique : Bool) : List Token → Option Command
  | .name index :: .word "ON" :: .name table :: .mark '(' :: rest =>
    match readNames rest with
    | some (columns, []) => some (.createIndex index table columns unique false)
    | _ => none
  | _ => none

/-- An insert of rows with these numbers of values. -/
def insertOf (table : String) (columns : List String) (widths : List Nat) : Reading :=
  if widths.all (· == columns.length) then .command (.insert table columns widths.length none)
  else
    match widths with
    | width :: rest => if rest.all (· == width) then .misfit table columns width else .uneven
    | [] => .uneven

def readInsert (table : String) : List Token → Option Reading
  | [.word "DEFAULT", .word "VALUES"] => some (.command (.insert table [] 1 none))
  | .mark '(' :: rest =>
    match readNames rest with
    | some (columns, .word "VALUES" :: rest) =>
      (readGroups rest.length rest).map (insertOf table columns)
    | _ => none
  | _ => none

def readSelect (tokens : List Token) : Option Command :=
  match readSelected tokens with
  | some (columns, .name table :: rest) =>
    match rest with
    | [.word "ORDER", .word "BY", .name key] => some (.selectAll table columns key)
    | .word "WHERE" :: rest =>
      (readCondition rest).map fun (key, count) => .selectKeys table columns key count
    | _ => none
  | _ => none

def readUpdate (table : String) (tokens : List Token) : Option Command :=
  match readAssignments tokens with
  | some (columns, [.name key, .mark '=', .mark '?']) => some (.update table columns key)
  | _ => none

def ofTokens? : List Token → Option Command
  | .word "CREATE" :: .word "TABLE" :: .word "IF" :: .word "NOT" :: .word "EXISTS" :: .name table
      :: .mark '(' :: rest =>
    (readColumns rest).map fun (columns, key) => .createTable table columns key
  | .word "CREATE" :: .word "UNIQUE" :: .word "INDEX" :: rest => readIndex true rest
  | .word "CREATE" :: .word "INDEX" :: rest => readIndex false rest
  | [.word "SELECT", .word "COUNT", .mark '(', .mark '*', .mark ')', .word "FROM", .name table] =>
    some (.countRows table)
  | [.word "SELECT", .word "MAX", .mark '(', .name key, .mark ')', .word "FROM", .name table] =>
    some (.maxKey table key)
  | .word "SELECT" :: rest => readSelect rest
  | .word "UPDATE" :: .name table :: .word "SET" :: rest => readUpdate table rest
  | [.word "DELETE", .word "FROM", .name table] => some (.deleteAll table)
  | .word "DELETE" :: .word "FROM" :: .name table :: .word "WHERE" :: rest =>
    (readCondition rest).map fun (key, count) => .deleteKeys table key count
  | _ => none

def readTokens : List Token → Option Reading
  | .word "INSERT" :: .word "INTO" :: .name table :: rest => readInsert table rest
  | tokens => (ofTokens? tokens).map Reading.command

/-- The command that a text spells out. -/
def read? (text : String) : Option Reading := (Token.scan text).bind readTokens

end Command

end IdentityMap.Sql
