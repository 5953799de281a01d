import IdentityMap.RowStore
/-!
# The gateway to the row store

Reads and writes the table of an entity type through a row store, and counts the calls it makes. A
call is counted when it is issued, whether or not it succeeds. An `Access` keeps the gateway's state
on both exits: a failed operation has still made its calls.
-/

namespace IdentityMap

structure Gateway (σ : Type) where
  dialect : Sql.Dialect
  rows : σ
  roundTrips : Nat := 0

/-- An operation on a gateway that may fail. -/
abbrev Access (σ α : Type) := ExceptT Error (StateM (Gateway σ)) α

namespace Access

variable {σ α : Type}

def dialect : Access σ Sql.Dialect := fun g => (.ok g.dialect, g)

/-- Issue one call to the row store. -/
def call (f : σ → Except Error α × σ) : Access σ α := fun g =>
  let (answer, rows) := f g.rows
  (answer, { g with rows, roundTrips := g.roundTrips + 1 })

/-- An outcome that was reached without the row store. -/
def ofExcept (outcome : Except Error α) : Access σ α := fun g => (outcome, g)

variable [RowStore σ]

def query (s : Sql.Statement) (params : List Value) : Access σ (List Row) :=
  call (RowStore.query s params)

def execute (s : Sql.Statement) (params : List Value) : Access σ Nat :=
  call (RowStore.execute s params)

def executeBatch (s : Sql.Statement) (paramSets : List (List Value)) : Access σ Nat :=
  call (RowStore.executeBatch s paramSets)

def insertReturningKey (s : Sql.Statement) (params : List Value) : Access σ Value :=
  call (RowStore.insertReturningKey s params)

/-- Run statements without parameters, one after the other. -/
def executeAll : List Sql.Statement → Access σ Unit
  | [] => pure ()
  | s :: rest => do
    let _ ← execute s []
    executeAll rest

end Access

namespace TableMapping

variable {σ : Type} [RowStore σ]

/-- Create the table and its indexes. Nothing is sent if an index cannot be expressed. -/
def createSchema (m : TableMapping) : Access σ Unit := do
  let d ← Access.dialect
  let indexes ← Access.ofExcept (d.createIndexes m)
  Access.executeAll (d.createTable m :: indexes)

/-- The records with the given keys. -/
def fetchKeys (m : TableMapping) (keys : List EntityKey) : Access σ (List Record) := do
  if keys = [] then return []
  let d ← Access.dialect
  let statement ← Access.ofExcept (d.selectKeys m keys.length)
  let rows ← Access.query statement (keys.map EntityKey.toValue)
  Access.ofExcept (m.decodeRows rows)

/-- All records, in the order of the row store. -/
def fetchAll (m : TableMapping) : Access σ (List Record) := do
  let d ← Access.dialect
  let rows ← Access.query (d.selectAll m) []
  Access.ofExcept (m.decodeRows rows)

/-- The first value of an answer. -/
def firstValue? (rows : List Row) : Option Value := rows.head?.bind fun row => row.values.head?

/-- The number that an answer to a count holds. -/
def countIn (rows : List Row) : Except Error Nat :=
  match (firstValue? rows).bind Value.asInt? with
  | none => .error (.backend "count" "expected one integer column")
  | some n => if n < 0 then .error (.backend "count" "negative row count") else .ok n.toInt.toNat

/-- How many rows the table has. -/
def countRows (m : TableMapping) : Access σ Nat := do
  let d ← Access.dialect
  let rows ← Access.query (d.countRows m) []
  Access.ofExcept (countIn rows)

/-- The key that an answer to a query for the largest key holds; without rows there is none. -/
def largestKeyIn (rows : List Row) : Except Error (Option Int64) :=
  match firstValue? rows with
  | none | some .null => .ok none
  | some (.int n) => .ok (some n)
  | some _ => .error (.backend "max key" "key column is not an integer")

def largestKey (m : TableMapping) : Access σ (Option Int64) := do
  let d ← Access.dialect
  let rows ← Access.query (d.maxKey m) []
  Access.ofExcept (largestKeyIn rows)

/-- The generated key that the row store reported. -/
def reportedKey (m : TableMapping) (raw : Value) : Except Error EntityKey :=
  let key := match m.keyColumn.type.decode m.keyColumn.field raw with
    | .ok v => EntityKey.ofValue? v
    | .error _ => none
  match key with
  | some key => .ok key
  | none => .error (.backend "insert" "row store returned no usable key")

/-- Insert one row; the answer is the key, if the row store generated it. -/
def insertRow (m : TableMapping) (r : Record) : Access σ (Option EntityKey) := do
  let d ← Access.dialect
  let statement := d.insert m
  if m.keyColumn.generated then
    let raw ← Access.insertReturningKey statement (statement.bind r)
    let key ← Access.ofExcept (m.reportedKey raw)
    return some key
  else
    let _ ← Access.execute statement (statement.bind r)
    return none

/-- Insert several rows whose keys are known: as one statement where they fit into one, else as a
batch of single rows, which the row store takes as a whole. -/
def insertRows (m : TableMapping) (records : List Record) (batch : Nat) : Access σ Nat := do
  let d ← Access.dialect
  match records with
  | [] => return 0
  | [r] =>
    let _ ← m.insertRow r
    return 1
  | _ =>
    if records.length ≤ d.rowsPerInsert m batch ∧ d.multiRowInsert = true then
      let statement ← Access.ofExcept (d.insertMany m records.length)
      let params ← Access.ofExcept (statement.bindMany records)
      Access.execute statement params
    else
      let statement := d.insert m
      Access.executeBatch statement (records.map statement.bind)

def rowExists (m : TableMapping) (key : EntityKey) : Access σ Bool := do
  let records ← m.fetchKeys [key]
  return !records.isEmpty

/-- Write every column besides the key's of one row; the answer is how many rows were met. Where
there is no such column the row is looked up instead. -/
def updateRow (m : TableMapping) (r : Record) : Access σ Nat := do
  let d ← Access.dialect
  match d.update m with
  | some statement => Access.execute statement (statement.bind r)
  | none =>
    match m.entityType.keyOf? r with
    | none => Access.ofExcept (.error (.illegal (.recordWithoutKey m.table)))
    | some key =>
      let present ← m.rowExists key
      return if present then 1 else 0

def deleteRows (m : TableMapping) (keys : List EntityKey) : Access σ Nat := do
  if keys = [] then return 0
  let d ← Access.dialect
  let statement ← Access.ofExcept (d.deleteKeys m keys.length)
  Access.execute statement (keys.map EntityKey.toValue)

def deleteAllRows (m : TableMapping) : Access σ Nat := do
  let d ← Access.dialect
  Access.execute (d.deleteAll m) []

end TableMapping

/-- The gateway for diagnosis. -/
def Gateway.diagnostic {σ : Type} (g : Gateway σ) : String :=
  "Backend \x7b dialect: " ++ Text.quoted g.dialect.name ++ ", round_trips: "
    ++ toString g.roundTrips ++ " \x7d"

end IdentityMap
