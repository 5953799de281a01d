import IdentityMap.Proofs.Value.Stored
import IdentityMap.RowStore
/-!
# What commands do to tables

A relational reading of the commands that a gateway sends. A table holds at most one row for each
value of its key column. A query brings rows and changes nothing (`Sql.Answers`), and the other
commands insert, change or remove rows (`Sql.Effect`, `Sql.GeneratedInsert`). In which order rows
come, and whether an update counts a row that already held its new values, is left open.

A row store is faithful (`Sql.Faithful`) if there are tables behind it on which a call that succeeds
does what its command says, and a call that fails does nothing.
-/

namespace IdentityMap.Sql

/-! ### Rows -/

/-- The cells of a row, by column. None of them is a NaN: a database stores null in its place. -/
structure Cells where
  cell : String → Stored
  numbers : ∀ column, (cell column).toValue.isNaN = false

namespace Cells

def null : Cells := ⟨fun _ => .null, fun _ => rfl⟩

/-- Store the parameters in the columns, one after the other; the other cells stay as they are. -/
def write (columns : List String) (params : List Value) (cells : Cells) : Cells where
  cell column := ((columns.zip params).lookup column).elim (cells.cell column) Value.toStored
  numbers column := by
    cases (columns.zip params).lookup column with
    | none => exact cells.numbers column
    | some v => exact v.isNaN_toStored

/-- What an answer shows of the row. -/
def row (columns : List String) (cells : Cells) : Row :=
  ⟨columns, columns.map fun column => (cells.cell column).toValue⟩

end Cells

/-- Rows by the value of their key column. -/
structure Rows (key : String) where
  row? : Stored → Option Cells
  keyed : ∀ k cells, row? k = some cells → cells.cell key = k

namespace Rows

variable {key : String}

def none (key : String) : Rows key := ⟨fun _ => .none, by simp⟩

/-- Store a row, in place of the one with its key if there is one. -/
def put (rows : Rows key) (cells : Cells) : Rows key where
  row? k := if k = cells.cell key then some cells else rows.row? k
  keyed k cells' found := by
    split at found
    · rename_i same
      cases found
      exact same.symm
    · exact rows.keyed k cells' found

def remove (rows : Rows key) (keys : List Stored) : Rows key where
  row? k := if k ∈ keys then .none else rows.row? k
  keyed k cells found := by
    split at found
    · cases found
    · exact rows.keyed k cells found

/-- The rows are inserted in turn, each under a key that has no row yet. -/
def Inserts (rows : Rows key) : List Cells → Rows key → Prop
  | [], rows' => rows' = rows
  | cells :: rest, rows' => rows.row? (cells.cell key) = .none ∧ Inserts (rows.put cells) rest rows'

/-- The answer consists of the rows whose keys are wanted, in any order. -/
def Brings (columns : List String) (rows : Rows key) (wanted : Stored → Prop) (answer : List Row) :
    Prop :=
  ∃ found : List Cells, answer = found.map (Cells.row columns) ∧
    ∀ cells, cells ∈ found ↔ ∃ k, wanted k ∧ rows.row? k = some cells

end Rows

/-! ### Tables -/

structure Table where
  /-- The key column. -/
  key : String
  rows : Rows key

/-- The tables of a row store by name. -/
abbrev Tables := String → Option Table

namespace Tables

/-- The row with a key in a table; where there is no table there is none. -/
def row? (T : Tables) (name : String) (k : Stored) : Option Cells := (T name).bind (·.rows.row? k)

/-- Put other rows into a table, or put the table there. -/
def set (T : Tables) (name : String) {key : String} (rows : Rows key) : Tables := fun other =>
  if other = name then some ⟨key, rows⟩ else T other

theorem key_of_map {T : Tables} {name key : String} (found : (T name).map (·.key) = some key)
    {table : Table} (here : T name = some table) : table.key = key := by
  simpa [here] using found

end Tables

def generatedName? : ColumnDef → Option String
  | .generatedKey name _ => some name
  | .plain .. => none

/-- The key column of a table that is created: the one that is declared, or the one whose values are
generated. -/
def declaredKey (columns : List ColumnDef) (key : Option String) : String :=
  (key.or (columns.findSome? generatedName?)).getD ""

/-- The parameters in groups, one group for each row of an insert. -/
def insertedCells (columns : List String) : (rows : Nat) → List Value → List Cells
  | 0, _ => []
  | rows + 1, params =>
    Cells.null.write columns params :: insertedCells columns rows (params.drop columns.length)

/-! ### Commands -/

/-- What a query brings. -/
def Answers (T : Tables) (params : List Value) (answer : List Row) : Command → Prop
  | .selectKeys name columns key _ => ∃ t, T name = some t ∧
    (key = t.key → t.rows.Brings columns (· ∈ params.map Value.toStored) answer)
  | .selectAll name columns _ => ∃ t, T name = some t ∧ t.rows.Brings columns (fun _ => True) answer
  | _ => True

/-- What a command does that changes rows and says how many it met. The last parameter of an update
is the key of the row that is meant. -/
def Effect (T : Tables) (params : List Value) (met : Nat) (T' : Tables) : Command → Prop
  | .createTable name columns key =>
    T' = if (T name).isSome then T else T.set name (.none (declaredKey columns key))
  | .insert name columns rows _ => ∃ t rows', T name = some t ∧
    t.rows.Inserts (insertedCells columns rows params) rows' ∧ T' = T.set name rows'
  | .update name columns key => ∃ t, T name = some t ∧ ∀ k,
    key = t.key → key ∉ columns → (params.drop columns.length).head? = some k →
      match t.rows.row? k.toStored with
      | none => met = 0 ∧ T' = T
      | some cells => T' = T.set name (t.rows.put (cells.write columns params)) ∧
        (met = 0 → T' = T)
  | .deleteKeys name key _ => ∃ t, T name = some t ∧
    (key = t.key → T' = T.set name (t.rows.remove (params.map Value.toStored)))
  | .deleteAll name => ∃ t, T name = some t ∧ T' = T.set name (.none t.key)
  | _ => T' = T

/-- What an insert does that reports the key it has generated. -/
def GeneratedInsert (T : Tables) (params : List Value) (reported : Value) (T' : Tables) :
    Command → Prop
  | .insert name columns _ (some key) => ∃ t n, T name = some t ∧ reported = .int n ∧
    (key = t.key → t.rows.row? (.integer n) = none ∧ T' = T.set name
      (t.rows.put ((Cells.null.write columns params).write [key] [.int n])))
  | _ => True

/-- A command is run with several lists of parameters, one after the other. -/
def Effects (command : Command) (T : Tables) : List (List Value) → Tables → Prop
  | [], T' => T' = T
  | params :: rest, T' =>
    ∃ T₁ met, Effect T params met T₁ command ∧ Effects command T₁ rest T'

/-! ### Faithful row stores -/

/-- A call has an effect if it succeeds, and none if it fails. -/
def Outcome {α : Type} (T : Tables) (answer : Except Error α) (T' : Tables) (effect : α → Prop) :
    Prop :=
  match answer with
  | .error _ => T' = T
  | .ok a => effect a

/-- There are tables behind the row store, and statements do to them what their commands say. -/
structure Faithful {σ : Type} [RowStore σ] (tables : σ → Tables) : Prop where
  query : ∀ s params rows answer next, RowStore.query s params rows = (answer, next) →
    Outcome (tables rows) answer (tables next) fun found =>
      Answers (tables rows) params found s.command ∧ tables next = tables rows
  execute : ∀ s params rows answer next, RowStore.execute s params rows = (answer, next) →
    Outcome (tables rows) answer (tables next) fun met =>
      Effect (tables rows) params met (tables next) s.command
  executeBatch : ∀ s paramSets rows answer next,
    RowStore.executeBatch s paramSets rows = (answer, next) →
    Outcome (tables rows) answer (tables next) fun _ =>
      Effects s.command (tables rows) paramSets (tables next)
  insertReturningKey : ∀ s params rows answer next,
    RowStore.insertReturningKey s params rows = (answer, next) →
    Outcome (tables rows) answer (tables next) fun reported =>
      GeneratedInsert (tables rows) params reported (tables next) s.command

end IdentityMap.Sql
