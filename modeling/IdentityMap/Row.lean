import IdentityMap.Mapping.Table
/-!
# Rows

A row of a query's answer, and the reading of rows into records. A record takes each field from the
column of its name, wherever that stands in the row and whatever the case of its ASCII letters.
Reading is all or nothing: the first row that cannot be read fails the whole answer.
-/

namespace IdentityMap

structure Row where
  columns : List String
  values : List Value
deriving DecidableEq

namespace Row

/-- The value beside the first of `columns` with the name. -/
def valueIn (name : String) : (columns : List String) → (values : List Value) → Option Value
  | [], _ => none
  | column :: columns, values =>
    if sameColumn column name then values.head? else valueIn name columns values.tail

def byName? (row : Row) (name : String) : Option Value := valueIn name row.columns row.values

/-- The columns with their values. -/
def pairs (row : Row) : List (String × Value) := row.columns.zip row.values

/-- Read the columns one after the other into `record`. -/
def decodeColumns (table : String) (row : Row) : List Column → Record → Except Error Record
  | [], record => .ok record
  | c :: rest, record =>
    match row.byName? c.name with
    | none => .error (.backend "decode" s!"row of {table} has no column '{c.name}'")
    | some raw =>
      match c.type.decode c.field raw with
      | .error e => .error e
      | .ok v => decodeColumns table row rest (record.insert c.field v)

/-- The record that a row of the table holds. -/
def decode (m : TableMapping) (row : Row) : Except Error Record :=
  row.decodeColumns m.table m.columns .empty

end Row

def TableMapping.decodeRows (m : TableMapping) : List Row → Except Error (List Record)
  | [] => .ok []
  | row :: rest =>
    match row.decode m with
    | .error e => .error e
    | .ok record => (m.decodeRows rest).map (record :: ·)

end IdentityMap
