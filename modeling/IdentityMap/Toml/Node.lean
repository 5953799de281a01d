import IdentityMap.Binary64.Basic
/-!
# The contents of a settings document

A TOML document is a table of named nodes. A table remembers how it came about, because the format
forbids extending some tables: a table may be opened by a header once, and a table that a header
opened or that was written in one line is not extended by dotted keys.
-/

namespace IdentityMap.Toml

/-- How a table came about. -/
inductive Origin
  /-- As the table around a header's last name. -/
  | implied
  /-- By the dots of a key. -/
  | dotted
  /-- By a header of its own. -/
  | header
deriving DecidableEq, Repr

inductive Node
  | text (s : String)
  | integer (n : Int)
  | real (x : Binary64)
  | boolean (b : Bool)
  /-- A date, a time, or both. -/
  | moment
  | array (items : List Node)
  /-- A table written as one value. -/
  | inlineTable (entries : List (String × Node))
  | table (origin : Origin) (entries : List (String × Node))
  /-- Tables under one name, each opened by a header in double brackets. -/
  | tables (items : List (List (String × Node)))

abbrev Entries := List (String × Node)

namespace Entries

def find? (entries : Entries) (key : String) : Option Node :=
  (List.find? (fun e => e.1 = key) entries).map (·.2)

/-- Put another node under a key that is there. -/
def replace (entries : Entries) (key : String) (node : Node) : Entries :=
  entries.map fun e => if e.1 = key then (key, node) else e

/-- Add an entry under a key that is not there. -/
def add? (entries : Entries) (key : String) (node : Node) : Option Entries :=
  match find? entries key with
  | some _ => none
  | none => some (entries ++ [(key, node)])

/-- Change the table at the end of a path. Tables that are missing on the way are made, by dots or
as implied ones; a path does not lead through values, nor a dotted one through a table that a
header opened. -/
def within (dots : Bool) (change : Origin → Entries → Option Entries) :
    (path : List String) → Origin → Entries → Option Entries
  | [], origin, entries => change origin entries
  | key :: path, _, entries =>
    match find? entries key with
    | none =>
      let origin := if dots then .dotted else .implied
      (within dots change path origin []).bind fun inner =>
        some (entries ++ [(key, .table origin inner)])
    | some (.table origin inner) =>
      if dots ∧ origin = .header then none
      else
        (within dots change path origin inner).bind fun inner =>
          some (replace entries key (.table origin inner))
    | some (.tables items) =>
      match items.getLast? with
      | none => none
      | some inner =>
        (within dots change path .header inner).bind fun inner =>
          some (replace entries key (.tables (items.dropLast ++ [inner])))
    | some _ => none

/-- Store a node under a key that may have dots. The table that takes it was made by dots, or it is
the one that the key starts from. -/
def assign? (entries : Entries) (path : List String) (key : String) (node : Node) :
    Option Entries :=
  within true
    (fun origin inner => if origin = .dotted ∨ path = [] then add? inner key node else none)
    path .header entries

end Entries

end IdentityMap.Toml
