import IdentityMap.Proofs.Sql.Binding
import IdentityMap.Proofs.Sql.Memory
/-!
# Inserts in turn and together

Rows can be inserted by one call each (`Sql.RunsInTurn`), or together: by a statement for several
rows, or by a batch. Faithfulness says what a call does if it succeeds, but nothing of which calls
do. `Sql.TakesTogether` is the promise that is missing: rows that the row store takes in turn it
takes together as well. Memory keeps it.
-/

namespace IdentityMap.Sql

variable {σ : Type} [RowStore σ]

/-- The statement is run with each list of parameters in turn, and every run succeeds. -/
inductive RunsInTurn (s : Statement) : List (List Value) → σ → σ → Prop
  | nil (rows : σ) : RunsInTurn s [] rows rows
  | cons {params : List Value} {rest : List (List Value)} {rows next rows' : σ} {met : Nat}
    (ran : RowStore.execute s params rows = (.ok met, next))
    (others : RunsInTurn s rest next rows') : RunsInTurn s (params :: rest) rows rows'

/-- Rows of the type that the row store takes in turn it takes together: as a batch, and in one
statement where the dialect has such a statement. -/
structure TakesTogether (σ : Type) [RowStore σ] (d : Dialect) (t : EntityType) : Prop where
  batch : ∀ (paramSets : List (List Value)) (rows rows' : σ), paramSets ≠ [] →
    RunsInTurn (d.insert ⟨t⟩) paramSets rows rows' →
    ∃ met, (RowStore.executeBatch (d.insert ⟨t⟩) paramSets rows).1 = .ok met
  joined : ∀ (paramSets : List (List Value)) (rows rows' : σ) (many : Statement),
    d.insertMany ⟨t⟩ paramSets.length = .ok many →
    (∀ params ∈ paramSets, params.length = (TableMapping.mk t).insertColumns.length) →
    RunsInTurn (d.insert ⟨t⟩) paramSets rows rows' →
    ∃ met, (RowStore.execute many paramSets.flatten rows).1 = .ok met

/-! ### Memory -/

/-- The parameters of several rows, one behind the other, are those of the rows taken singly. -/
theorem insertedCells_flatten {columns : List String} {paramSets : List (List Value)}
    (widths : ∀ params ∈ paramSets, params.length = columns.length) :
    insertedCells columns paramSets.length paramSets.flatten
      = paramSets.flatMap (insertedCells columns 1) := by
  induction paramSets with
  | nil => rfl
  | cons params rest ih =>
    have width := widths params List.mem_cons_self
    have others := ih fun p listed => widths p (List.mem_cons_of_mem _ listed)
    rw [List.length_cons, List.flatten_cons, List.flatMap_cons, insertedCells,
      Cells.write_append width, List.drop_left' width, others]
    rfl

theorem Shelf.insertAll_append (first later : List Cells) (s : Shelf) :
    s.insertAll (first ++ later) = (s.insertAll first).bind (·.insertAll later) := by
  induction first generalizing s with
  | nil => rfl
  | cons cells rest ih =>
    rw [List.cons_append, insertAll, insertAll]
    split
    · rfl
    · exact ih _

namespace Memory

variable {m m' : Memory} {s : Statement} {name : String} {columns : List String} {rows : Nat}
  {generated : Option String}

/-- An insert has succeeded: no fault was due, and no row was there. -/
theorem execute_insert_cases (command : s.command = .insert name columns rows generated)
    {params : List Value} {met : Nat} (ran : RowStore.execute s params m = (.ok met, m')) :
    m.faults.headD false = false ∧ ∃ shelf shelf', m.shelf? name = some shelf ∧
      shelf.insertAll (insertedCells columns rows params) = some shelf' ∧
      m'.shelf? name = some shelf' := by
  have run : attempt (fun m => m.change params s.command) m = (.ok met, m') := ran
  unfold attempt at run
  simp only [command, change] at run
  cases due : m.faults.headD false with
  | true =>
    simp only [due, if_true] at run
    cases run
  | false =>
    simp only [due, Bool.false_eq_true, if_false] at run
    cases here : m.shelf? name with
    | none =>
      simp only [here] at run
      cases run
    | some shelf =>
      cases inserted : shelf.insertAll (insertedCells columns rows params) with
      | none =>
        simp only [here, inserted] at run
        cases run
      | some shelf' =>
        simp only [here, inserted] at run
        cases run
        exact ⟨rfl, shelf, shelf', rfl, inserted, by simp [set]⟩

theorem execute_insert_ok (command : s.command = .insert name columns rows generated)
    {params : List Value} {shelf shelf' : Shelf} (undisturbed : m.faults.headD false = false)
    (here : m.shelf? name = some shelf)
    (inserted : shelf.insertAll (insertedCells columns rows params) = some shelf') :
    ∃ met, (RowStore.execute s params m).1 = .ok met := by
  refine ⟨rows, ?_⟩
  show (attempt (fun m => m.change params s.command) m).1 = _
  simp only [attempt, change, command, undisturbed, here, inserted]
  rfl

/-- Rows that are inserted in turn can be put on the shelf as they stand. -/
theorem insertAll_of_runsInTurn (command : s.command = .insert name columns 1 generated)
    {paramSets : List (List Value)} (runs : RunsInTurn s paramSets m m') {shelf : Shelf}
    (here : m.shelf? name = some shelf) :
    ∃ shelf', shelf.insertAll (paramSets.flatMap (insertedCells columns 1)) = some shelf' := by
  induction runs generalizing shelf with
  | nil m => exact ⟨shelf, rfl⟩
  | cons ran _ ih =>
    obtain ⟨_, shelf₀, shelf₁, found, first, after⟩ := execute_insert_cases command ran
    rw [here] at found
    obtain rfl := Option.some.inj found
    obtain ⟨shelf', others⟩ := ih after
    exact ⟨shelf', by rw [List.flatMap_cons, Shelf.insertAll_append, first]; exact others⟩

/-- Where rows are inserted in turn, at least one, no fault is due and there is a shelf for them
all. -/
theorem shelf_of_runsInTurn (command : s.command = .insert name columns 1 generated)
    {paramSets : List (List Value)} (some : paramSets ≠ []) (runs : RunsInTurn s paramSets m m') :
    m.faults.headD false = false ∧ ∃ shelf shelf', m.shelf? name = .some shelf ∧
      shelf.insertAll (paramSets.flatMap (insertedCells columns 1)) = .some shelf' := by
  have all : ∀ shelf, m.shelf? name = .some shelf → ∃ shelf',
      shelf.insertAll (paramSets.flatMap (insertedCells columns 1)) = .some shelf' :=
    fun _ => insertAll_of_runsInTurn command runs
  cases runs with
  | nil => exact absurd rfl some
  | cons ran _ =>
    obtain ⟨undisturbed, shelf, _, here, _, _⟩ := execute_insert_cases command ran
    obtain ⟨shelf', inserted⟩ := all shelf here
    exact ⟨undisturbed, shelf, shelf', here, inserted⟩

theorem changeEach_ok {paramSets : List (List Value)} {shelf shelf' : Shelf}
    (here : m.shelf? name = some shelf)
    (inserted : shelf.insertAll (paramSets.flatMap (insertedCells columns 1)) = some shelf') :
    ∃ met m', changeEach (.insert name columns 1 generated) paramSets m = .ok (met, m') := by
  induction paramSets generalizing m shelf with
  | nil => exact ⟨0, m, rfl⟩
  | cons params rest ih =>
    rw [List.flatMap_cons, Shelf.insertAll_append] at inserted
    obtain ⟨shelf₁, first, later⟩ := Option.bind_eq_some_iff.1 inserted
    obtain ⟨met, m', others⟩ := ih (m := m.set name shelf₁) (by simp [set]) later
    exact ⟨1 + met, m', by simp [changeEach, change, here, first, others, Except.map]⟩

theorem takesTogether (d : Dialect) (t : EntityType) : TakesTogether Memory d t where
  batch paramSets m m' some runs := by
    obtain ⟨undisturbed, shelf, shelf', here, inserted⟩ :=
      shelf_of_runsInTurn (s := d.insert ⟨t⟩) rfl some runs
    obtain ⟨met, m₁, changed⟩ : ∃ met m₁, changeEach (d.insert ⟨t⟩).command paramSets
        { m with faults := m.faults.tail } = .ok (met, m₁) := changeEach_ok here inserted
    refine ⟨met, ?_⟩
    show (attempt (changeEach (d.insert ⟨t⟩).command paramSets) m).1 = _
    simp only [attempt, undisturbed, changed]
    rfl
  joined paramSets m m' many produced widths runs := by
    obtain rfl := Dialect.eq_of_insertMany_eq_ok produced
    have some : paramSets ≠ [] := by
      rintro rfl
      simp [Dialect.insertMany] at produced
    obtain ⟨undisturbed, shelf, shelf', here, inserted⟩ :=
      shelf_of_runsInTurn (s := d.insert ⟨t⟩) rfl some runs
    rw [← insertedCells_flatten (by simpa [Dialect.columnNames] using widths)] at inserted
    exact execute_insert_ok rfl undisturbed here inserted

end Memory

end IdentityMap.Sql
