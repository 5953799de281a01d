import IdentityMap.Proofs.Sql.Tables
/-!
# A row store in memory

A row store that keeps its tables in memory and does to them what the commands say, unless it is
told to let a call fail. It is faithful (`Sql.Memory.faithful`), so what is proved of faithful row
stores is not proved of nothing.
-/

namespace IdentityMap.Sql

/-! ### Shelves -/

/-- A table with a list of the keys that have rows. -/
structure Shelf where
  table : Table
  keys : List Stored
  listed : ∀ k cells, table.rows.row? k = some cells → k ∈ keys

namespace Shelf

def empty (key : String) : Shelf := ⟨⟨key, .none key⟩, [], by simp [Rows.none]⟩

def put (s : Shelf) (cells : Cells) : Shelf where
  table := ⟨s.table.key, s.table.rows.put cells⟩
  keys :=
    if cells.cell s.table.key ∈ s.keys then s.keys else s.keys ++ [cells.cell s.table.key]
  listed k cells' found := by
    have present : k = cells.cell s.table.key ∨ k ∈ s.keys := by
      by_cases own : k = cells.cell s.table.key
      · exact .inl own
      · simp only [Rows.put, if_neg own] at found
        exact .inr (s.listed k cells' found)
    split <;> rename_i here
    · rcases present with rfl | before
      · exact here
      · exact before
    · simpa [or_comm] using present

def remove (s : Shelf) (keys : List Stored) : Shelf where
  table := ⟨s.table.key, s.table.rows.remove keys⟩
  keys := s.keys.filter (· ∉ keys)
  listed k cells found := by
    by_cases gone : k ∈ keys
    · simp [Rows.remove, gone] at found
    · simp only [Rows.remove, if_neg gone] at found
      exact List.mem_filter.2 ⟨s.listed k cells found, by simpa using gone⟩

/-- Insert rows in turn, each under a key that has no row yet. -/
def insertAll : List Cells → Shelf → Option Shelf
  | [], s => some s
  | cells :: rest, s =>
    match s.table.rows.row? (cells.cell s.table.key) with
    | some _ => none
    | none => insertAll rest (s.put cells)

/-- The rows with the wanted keys. -/
def rowsWith (s : Shelf) (columns : List String) (wanted : Stored → Prop) [DecidablePred wanted] :
    List Row :=
  ((s.keys.filter (wanted ·)).filterMap s.table.rows.row?).map (Cells.row columns)

theorem rowsWith_brings (s : Shelf) (columns : List String) (wanted : Stored → Prop)
    [DecidablePred wanted] :
    s.table.rows.Brings columns wanted (s.rowsWith columns wanted) := by
  refine ⟨_, rfl, fun cells => ?_⟩
  simp only [List.mem_filterMap, List.mem_filter, decide_eq_true_eq]
  constructor
  · rintro ⟨k, ⟨_, asked⟩, found⟩
    exact ⟨k, asked, found⟩
  · rintro ⟨k, asked, found⟩
    exact ⟨k, ⟨s.listed k cells found, asked⟩, found⟩

theorem insertAll_inserts {rows : List Cells} {s s' : Shelf}
    (inserted : insertAll rows s = some s') :
    ∃ rows', s'.table = ⟨s.table.key, rows'⟩ ∧ s.table.rows.Inserts rows rows' := by
  induction rows generalizing s with
  | nil =>
    cases inserted
    exact ⟨_, rfl, rfl⟩
  | cons cells rest ih =>
    unfold insertAll at inserted
    split at inserted
    · cases inserted
    · rename_i free
      obtain ⟨rows', same, inserts⟩ := ih inserted
      exact ⟨rows', same, free, inserts⟩

end Shelf

/-! ### Commands -/

structure Memory where
  shelf? : String → Option Shelf
  /-- Whether the next calls fail; calls after the last one in the list do not. -/
  faults : List Bool := []

namespace Memory

def tables (m : Memory) : Tables := fun name => (m.shelf? name).map Shelf.table

def set (m : Memory) (name : String) (s : Shelf) : Memory :=
  { m with shelf? := fun other => if other = name then some s else m.shelf? other }

theorem tables_of_shelf {m : Memory} {name : String} {s : Shelf} (here : m.shelf? name = some s) :
    m.tables name = some s.table := by
  simp [tables, here]

theorem tables_set {m : Memory} {name : String} {s : Shelf} {key : String} {rows : Rows key}
    (table : s.table = ⟨key, rows⟩) : (m.set name s).tables = m.tables.set name rows := by
  funext other
  by_cases same : other = name
  · simp [tables, set, Tables.set, same, table]
  · simp [tables, set, Tables.set, same]

def refusal : Error := .backend "memory" "statement refused"

/-- Answer a query. -/
def answer (m : Memory) (params : List Value) : Command → Except Error (List Row)
  | .selectKeys name columns key _ =>
    match m.shelf? name with
    | some s =>
      if key = s.table.key then .ok (s.rowsWith columns (· ∈ params.map Value.toStored))
      else .error refusal
    | none => .error refusal
  | .selectAll name columns _ =>
    match m.shelf? name with
    | some s => .ok (s.rowsWith columns fun _ => True)
    | none => .error refusal
  | .countRows name =>
    match m.shelf? name with
    | some s => .ok [⟨["count"], [.int (.ofNat s.keys.length)]⟩]
    | none => .error refusal
  | _ => .error refusal

/-- Run a command that changes rows; how many it has met, and what there is then. -/
def change (m : Memory) (params : List Value) : Command → Except Error (Nat × Memory)
  | .createTable name columns key =>
    match m.shelf? name with
    | some _ => .ok (0, m)
    | none => .ok (0, m.set name (.empty (declaredKey columns key)))
  | .createIndex .. => .ok (0, m)
  | .insert name columns rows _ =>
    match m.shelf? name with
    | none => .error refusal
    | some s =>
      match s.insertAll (insertedCells columns rows params) with
      | none => .error refusal
      | some s' => .ok (rows, m.set name s')
  | .update name columns key =>
    match m.shelf? name, (params.drop columns.length).head? with
    | some s, some k =>
      if key = s.table.key ∧ key ∉ columns then
        match s.table.rows.row? k.toStored with
        | none => .ok (0, m)
        | some cells => .ok (1, m.set name (s.put (cells.write columns params)))
      else .error refusal
    | _, _ => .error refusal
  | .deleteKeys name key _ =>
    match m.shelf? name with
    | none => .error refusal
    | some s =>
      if key = s.table.key then
        let gone := s.remove (params.map Value.toStored)
        .ok (s.keys.length - gone.keys.length, m.set name gone)
      else .error refusal
  | .deleteAll name =>
    match m.shelf? name with
    | none => .error refusal
    | some s => .ok (s.keys.length, m.set name (.empty s.table.key))
  | _ => .error refusal

/-- Run a command with several lists of parameters. -/
def changeEach (command : Command) : List (List Value) → Memory → Except Error (Nat × Memory)
  | [], m => .ok (0, m)
  | params :: rest, m =>
    match m.change params command with
    | .error e => .error e
    | .ok (met, m) => (changeEach command rest m).map fun (others, m) => (met + others, m)

/-- Insert a row under the number of rows that there are, counted from one. -/
def generate (m : Memory) (params : List Value) : Command → Except Error (Value × Memory)
  | .insert name columns _ (some key) =>
    match m.shelf? name with
    | none => .error refusal
    | some s =>
      let n := Int64.ofNat (s.keys.length + 1)
      if key = s.table.key ∧ s.table.rows.row? (.integer n) = none then
        .ok (.int n, m.set name (s.put ((Cells.null.write columns params).write [key] [.int n])))
      else .error refusal
  | _ => .error refusal

/-- Let the call fail if it is to fail. -/
def attempt {α : Type} (call : Memory → Except Error (α × Memory)) (m : Memory) :
    Except Error α × Memory :=
  let next := { m with faults := m.faults.tail }
  if m.faults.headD false then (.error (.backend "memory" "unavailable"), next)
  else
    match call next with
    | .error e => (.error e, next)
    | .ok (a, after) => (.ok a, after)

instance : RowStore Memory where
  query s params := attempt fun m => (m.answer params s.command).map (·, m)
  execute s params := attempt fun m => m.change params s.command
  executeBatch s paramSets := attempt (changeEach s.command paramSets)
  insertReturningKey s params := attempt fun m => m.generate params s.command

/-! ### Faithfulness -/

theorem attempt_outcome {α : Type} {call : Memory → Except Error (α × Memory)} {m m' : Memory}
    {o : Except Error α} {effect : α → Prop} (run : attempt call m = (o, m'))
    (right : ∀ next a, next.tables = m.tables → call next = .ok (a, m') → effect a) :
    Outcome m.tables o m'.tables effect := by
  unfold attempt at run
  dsimp only at run
  split at run
  · cases run
    rfl
  · split at run
    · cases run
      rfl
    · rename_i called
      cases run
      exact right { m with faults := m.faults.tail } _ rfl called

theorem answer_answers {m : Memory} {params : List Value} {command : Command} {rows : List Row}
    (answered : m.answer params command = .ok rows) : Answers m.tables params rows command := by
  cases command with
  | selectKeys name columns key count =>
    unfold answer at answered
    cases here : m.shelf? name with
    | none => simp [here] at answered
    | some s =>
      simp only [here] at answered
      split at answered
      · cases answered
        exact ⟨s.table, tables_of_shelf here, fun _ => s.rowsWith_brings columns _⟩
      · cases answered
  | selectAll name columns key =>
    unfold answer at answered
    cases here : m.shelf? name with
    | none => simp [here] at answered
    | some s =>
      simp only [here] at answered
      cases answered
      exact ⟨s.table, tables_of_shelf here, s.rowsWith_brings columns _⟩
  | _ => trivial

theorem change_effect {m m' : Memory} {params : List Value} {command : Command} {met : Nat}
    (changed : m.change params command = .ok (met, m')) :
    Effect m.tables params met m'.tables command := by
  cases command with
  | createTable name columns key =>
    unfold change at changed
    cases here : m.shelf? name with
    | none =>
      simp only [here] at changed
      cases changed
      have missing : m.tables name = none := by simp [tables, here]
      simp only [Effect, missing]
      exact tables_set rfl
    | some s =>
      simp only [here] at changed
      cases changed
      simp [Effect, tables_of_shelf here]
  | createIndex =>
    cases changed
    rfl
  | insert name columns rows generated =>
    unfold change at changed
    cases here : m.shelf? name with
    | none => simp [here] at changed
    | some s =>
      cases inserted : s.insertAll (insertedCells columns rows params) with
      | none => simp [here, inserted] at changed
      | some s' =>
        simp only [here, inserted] at changed
        cases changed
        obtain ⟨rows', same, inserts⟩ := Shelf.insertAll_inserts inserted
        exact ⟨s.table, rows', tables_of_shelf here, inserts, tables_set same⟩
  | update name columns key =>
    unfold change at changed
    cases here : m.shelf? name with
    | none => simp [here] at changed
    | some s =>
      refine ⟨s.table, tables_of_shelf here, ?_⟩
      intro k own value last
      simp only [here, last] at changed
      rw [if_pos ⟨own, value⟩] at changed
      cases present : s.table.rows.row? k.toStored with
      | none =>
        simp only [present] at changed
        cases changed
        exact ⟨rfl, rfl⟩
      | some cells =>
        simp only [present] at changed
        cases changed
        exact ⟨tables_set rfl, by simp⟩
  | deleteKeys name key count =>
    unfold change at changed
    cases here : m.shelf? name with
    | none => simp [here] at changed
    | some s =>
      simp only [here] at changed
      split at changed
      · cases changed
        exact ⟨s.table, tables_of_shelf here, fun _ => tables_set rfl⟩
      · cases changed
  | deleteAll name =>
    unfold change at changed
    cases here : m.shelf? name with
    | none => simp [here] at changed
    | some s =>
      simp only [here] at changed
      cases changed
      exact ⟨s.table, tables_of_shelf here, tables_set rfl⟩
  | _ => cases changed

theorem changeEach_effects {command : Command} {paramSets : List (List Value)} {m m' : Memory}
    {met : Nat} (changed : changeEach command paramSets m = .ok (met, m')) :
    Effects command m.tables paramSets m'.tables := by
  induction paramSets generalizing m met with
  | nil =>
    cases changed
    rfl
  | cons params rest ih =>
    unfold changeEach at changed
    cases first : m.change params command with
    | error e => simp [first] at changed
    | ok done =>
      obtain ⟨n, m₁⟩ := done
      cases others : changeEach command rest m₁ with
      | error e => simp [first, others, Except.map] at changed
      | ok later =>
        simp only [first, others, Except.map] at changed
        cases changed
        exact ⟨m₁.tables, n, change_effect first, ih others⟩

theorem generate_inserts {m m' : Memory} {params : List Value} {command : Command}
    {reported : Value} (generated : m.generate params command = .ok (reported, m')) :
    GeneratedInsert m.tables params reported m'.tables command := by
  unfold generate at generated
  split at generated
  · rename_i name columns rows key
    cases here : m.shelf? name with
    | none => simp [here] at generated
    | some s =>
      simp only [here] at generated
      split at generated
      · rename_i free
        cases generated
        exact ⟨s.table, _, tables_of_shelf here, rfl, fun _ => ⟨free.2, tables_set rfl⟩⟩
      · cases generated
  · cases generated

/-- Memory does what commands say. -/
theorem faithful : Faithful tables where
  query s params m o m' run := attempt_outcome run fun next rows same called => by
    cases answered : next.answer params s.command with
    | error e => simp [answered, Except.map] at called
    | ok found =>
      simp only [answered, Except.map] at called
      cases called
      exact ⟨same ▸ answer_answers answered, same⟩
  execute s params m o m' run := attempt_outcome run fun next met same called =>
    same ▸ change_effect called
  executeBatch s paramSets m o m' run := attempt_outcome run fun next met same called =>
    same ▸ changeEach_effects called
  insertReturningKey s params m o m' run := attempt_outcome run fun next reported same called =>
    same ▸ generate_inserts called

end Memory

end IdentityMap.Sql
