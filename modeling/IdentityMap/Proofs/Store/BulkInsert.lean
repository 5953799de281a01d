import Mathlib.Order.Bounds.Basic
import IdentityMap.Proofs.Coherence.RoundTrip
import IdentityMap.Proofs.Store.Counters
/-!
# Bulk inserts

How many rows one insert may take is limited by the batch and by the dialect (`Dialect.Takes`). The
limits are written down twice in the code: as the number of rows that go into one insert, and as the
checks of the statement for several rows. Both say the same, so records with known keys go out in
exactly one call, whose way is settled by the limits alone (`BulkCall`), and an insert fails only
where the row store does (`TableMapping.insertRows_sends`).
-/

namespace IdentityMap

open Sql

/-! ### Limits -/

namespace Sql.Dialect

/-- What one insert may take: some rows, no more than the batch allows and the dialect admits. -/
structure Takes (d : Dialect) (m : TableMapping) (batch rows : Nat) : Prop where
  positive : 0 < rows
  batch : rows ≤ batch
  limit : ∀ limit, d.maxRows = some limit → rows ≤ limit
  params : rows * m.insertColumns.length ≤ d.maxParams

/-- The most rows that keep to the limits, or zero if one row does not. -/
def mostRows (d : Dialect) (m : TableMapping) (batch : Nat) : Nat :=
  match d.maxRows with
  | some limit => min (min batch (d.maxParams / m.insertColumns.length)) limit
  | none => min batch (d.maxParams / m.insertColumns.length)

variable {d : Dialect} {m : TableMapping} {batch rows : Nat}

theorem rowsPerInsert_eq (wide : m.insertColumns ≠ []) :
    d.rowsPerInsert m batch = max 1 (d.mostRows m batch) := by
  have width : max m.insertColumns.length 1 = m.insertColumns.length :=
    Nat.max_eq_left (List.length_pos_of_ne_nil wide)
  unfold rowsPerInsert mostRows
  cases d.maxRows <;> simp only [width]

theorem takes_iff (wide : m.insertColumns ≠ []) :
    d.Takes m batch rows ↔ 0 < rows ∧ rows ≤ d.mostRows m batch := by
  have params := Nat.le_div_iff_mul_le (x := rows) (y := d.maxParams)
    (List.length_pos_of_ne_nil wide)
  unfold mostRows
  constructor
  · intro takes
    refine ⟨takes.positive, ?_⟩
    have within := Nat.le_min.2 ⟨takes.batch, params.2 takes.params⟩
    split
    · rename_i limit limited
      exact Nat.le_min.2 ⟨within, takes.limit limit limited⟩
    · exact within
  · rintro ⟨positive, within⟩
    split at within
    · rename_i limit limited
      obtain ⟨within, fits⟩ := Nat.le_min.1 within
      obtain ⟨inBatch, inParams⟩ := Nat.le_min.1 within
      refine ⟨positive, inBatch, ?_, params.1 inParams⟩
      intro other same
      cases limited.symm.trans same
      exact fits
    · rename_i unlimited
      obtain ⟨inBatch, inParams⟩ := Nat.le_min.1 within
      exact ⟨positive, inBatch, by simp [unlimited], params.1 inParams⟩

/-- Several rows are taken exactly where no more than the rows of one insert are asked for. -/
theorem le_rowsPerInsert_iff (wide : m.insertColumns ≠ []) (several : 2 ≤ rows) :
    rows ≤ d.rowsPerInsert m batch ↔ d.Takes m batch rows := by
  rw [rowsPerInsert_eq wide, takes_iff wide]
  omega

/-- As many rows go into one insert as it may take; if it may take none, one goes into it. -/
theorem rowsPerInsert_greatest (wide : m.insertColumns ≠ []) :
    IsGreatest {rows | d.Takes m batch rows} (d.rowsPerInsert m batch) ∨
      (∀ rows, ¬ d.Takes m batch rows) ∧ d.rowsPerInsert m batch = 1 := by
  rw [rowsPerInsert_eq wide]
  by_cases room : 0 < d.mostRows m batch
  · left
    rw [Nat.max_eq_right room]
    exact ⟨(takes_iff wide).2 ⟨room, Nat.le_refl _⟩, fun rows takes => ((takes_iff wide).1 takes).2⟩
  · right
    refine ⟨fun rows takes => ?_, by omega⟩
    obtain ⟨positive, within⟩ := (takes_iff wide).1 takes
    omega

theorem Takes.exceedsRows (takes : d.Takes m batch rows) : d.exceedsRows rows = false := by
  unfold Dialect.exceedsRows
  split
  · rename_i limit limited
    simpa using takes.limit limit limited
  · rfl

/-- The dialect has a statement for the rows that an insert may take. -/
theorem insertMany_ok (wide : m.insertColumns ≠ []) (multi : d.multiRowInsert = true)
    (takes : d.Takes m batch rows) : ∃ s, d.insertMany m rows = .ok s := by
  have positive := takes.positive
  have width := List.length_pos_of_ne_nil wide
  unfold insertMany
  dsimp only
  rw [if_neg (by omega), if_neg (by simp [multi]), if_neg (by omega),
    if_neg (by simp [takes.exceedsRows, takes.params])]
  exact ⟨_, rfl⟩

/-- A statement for several rows binds them as the statement for one row does. -/
theorem bindMany_insertMany {records : List Record} {s : Statement}
    (produced : d.insertMany m records.length = .ok s) :
    s.bindMany records = .ok (records.flatMap (d.insert m).bind) := by
  obtain ⟨params, fitting⟩ := bindMany_ok (t := m.entityType) produced
  rw [fitting, (insertMany_eq (t := m.entityType) produced fitting).2]
  rfl

end Sql.Dialect

/-- A key that is known beforehand is inserted with its row. -/
theorem TableMapping.insertColumns_ne_nil {m : TableMapping} (plain : m.keyColumn.generated = false) :
    m.insertColumns ≠ [] := by
  have column : m.keyColumn ∈ m.columns := List.mem_map_of_mem m.entityType.wellFormed.keyDeclared
  exact List.ne_nil_of_mem (List.mem_filter.2 ⟨column, by simp [plain]⟩)

/-! ### Calls -/

/-- The call that inserts some records, by the way it goes out. -/
inductive BulkCall (d : Dialect) (m : TableMapping) (batch : Nat) (records : List Record) :
    Call → Prop
  | single {r : Record} (alone : records = [r]) :
    BulkCall d m batch records ⟨.execute, d.insert m, [(d.insert m).bind r]⟩
  | joint {s : Statement} (several : 2 ≤ records.length) (multi : d.multiRowInsert = true)
    (takes : d.Takes m batch records.length) (produced : d.insertMany m records.length = .ok s) :
    BulkCall d m batch records ⟨.execute, s, [records.flatMap (d.insert m).bind]⟩
  | batch (several : 2 ≤ records.length)
    (apart : ¬ (d.multiRowInsert = true ∧ d.Takes m batch records.length)) :
    BulkCall d m batch records ⟨.executeBatch, d.insert m, records.map (d.insert m).bind⟩

namespace BulkCall

variable {d : Dialect} {m : TableMapping} {batch : Nat} {records : List Record} {call : Call}

/-- Whichever way is taken, the parameters are those of the single rows, one after the other. -/
theorem params (bulk : BulkCall d m batch records call) :
    call.paramSets.flatten = records.flatMap (d.insert m).bind := by
  cases bulk with
  | single alone => simp [alone]
  | joint => simp
  | batch => rw [List.flatMap_def]

/-- A statement that takes several rows keeps to the limits. -/
theorem takes (bulk : BulkCall d m batch records call) (several : 1 < call.statement.rows) :
    d.multiRowInsert = true ∧ d.Takes m batch records.length := by
  cases bulk with
  | single => exact absurd several (Nat.lt_irrefl 1)
  | joint _ multi takes => exact ⟨multi, takes⟩
  | batch => exact absurd several (Nat.lt_irrefl 1)

end BulkCall

section Inserting

variable {σ : Type} [RowStore σ]

/-- What a row store answers to a call that changes rows, and what becomes of it. -/
inductive Call.Changes : Call → σ → Except Error Nat × σ → Prop
  | execute (s : Statement) (params : List Value) (rows : σ) :
    Changes ⟨.execute, s, [params]⟩ rows (RowStore.execute s params rows)
  | executeBatch (s : Statement) (paramSets : List (List Value)) (rows : σ) :
    Changes ⟨.executeBatch, s, paramSets⟩ rows (RowStore.executeBatch s paramSets rows)

namespace TableMapping

variable {m : TableMapping} {batch : Nat} {records : List Record}

theorem insertRows_single (plain : m.keyColumn.generated = false) (r : Record) (g : Gateway σ) :
    m.insertRows [r] batch g =
      let answer := RowStore.execute (g.dialect.insert m) ((g.dialect.insert m).bind r) g.rows
      (answer.1.map fun _ => 1, { g with rows := answer.2, roundTrips := g.roundTrips + 1 }) := by
  have inserted := insertRow_eq (g := g) plain r
  unfold insertRows
  rw [Access.dialect_bind]
  rcases answered : RowStore.execute (g.dialect.insert m) ((g.dialect.insert m).bind r) g.rows with
    ⟨e | n, rows⟩
  · simp only [answered, Except.map] at inserted
    exact bind_of_error inserted
  · simp only [answered, Except.map] at inserted
    exact bind_of_ok inserted

theorem insertRows_joint (wide : m.insertColumns ≠ []) {g : Gateway σ}
    (several : 2 ≤ records.length) (multi : g.dialect.multiRowInsert = true)
    (takes : g.dialect.Takes m batch records.length) {s : Statement}
    (produced : g.dialect.insertMany m records.length = .ok s) :
    m.insertRows records batch g
      = Access.execute s (records.flatMap (g.dialect.insert m).bind) g := by
  have fits := (Dialect.le_rowsPerInsert_iff wide several).2 takes
  unfold insertRows
  rw [Access.dialect_bind]
  split
  · cases several
  · exact absurd several (by simp)
  · rw [if_pos ⟨fits, multi⟩, produced, Access.ofExcept_ok_bind,
      Dialect.bindMany_insertMany produced, Access.ofExcept_ok_bind]

theorem insertRows_apart (wide : m.insertColumns ≠ []) {g : Gateway σ}
    (several : 2 ≤ records.length)
    (apart : ¬ (g.dialect.multiRowInsert = true ∧ g.dialect.Takes m batch records.length)) :
    m.insertRows records batch g
      = Access.executeBatch (g.dialect.insert m) (records.map (g.dialect.insert m).bind) g := by
  unfold insertRows
  rw [Access.dialect_bind]
  split
  · cases several
  · exact absurd several (by simp)
  · rw [if_neg fun joins =>
      apart ⟨joins.2, (Dialect.le_rowsPerInsert_iff wide several).1 joins.1⟩]

/-- Inserting records whose keys are known, for any dialect, batch and row store. Without records
nothing is sent. Otherwise exactly one call goes out, and its answer is the row store's own: an
insert fails only if the row store does. A statement for several rows keeps to the batch and to the
limits of the dialect. Whichever way is taken, the parameters are those of the statement for one row,
record by record, and so are those that a statement for several rows binds. The number of rows that
go into one insert is the largest that keeps to the limits, or one if there is none. -/
theorem insertRows_sends (plain : m.keyColumn.generated = false) (records : List Record)
    (batch : Nat) (g : Gateway (Logged σ)) :
    let d := g.dialect
    m.insertRows [] batch g = (.ok 0, g) ∧
    (records ≠ [] → ∃ call answer rows,
      call.Changes g.rows.rows (answer, rows) ∧
      m.insertRows records batch g =
        (if records.length = 1 then answer.map fun _ => 1 else answer,
          { g with rows := ⟨rows, g.rows.calls ++ [call]⟩, roundTrips := g.roundTrips + 1 }) ∧
      BulkCall d m batch records call ∧
      call.paramSets.flatten = records.flatMap (d.insert m).bind ∧
      (1 < call.statement.rows → d.multiRowInsert = true ∧ d.Takes m batch records.length)) ∧
    (∀ s, d.insertMany m records.length = .ok s →
      s.bindMany records = .ok (records.flatMap (d.insert m).bind)) ∧
    (IsGreatest {rows | d.Takes m batch rows} (d.rowsPerInsert m batch) ∨
      (∀ rows, ¬ d.Takes m batch rows) ∧ d.rowsPerInsert m batch = 1) := by
  intro d
  have wide := insertColumns_ne_nil plain
  refine ⟨rfl, fun some => ?call, fun s => Dialect.bindMany_insertMany,
    Dialect.rowsPerInsert_greatest wide⟩
  suffices sent : ∃ call answer rows, call.Changes g.rows.rows (answer, rows) ∧
      m.insertRows records batch g =
        (if records.length = 1 then answer.map fun _ => 1 else answer,
          { g with rows := ⟨rows, g.rows.calls ++ [call]⟩, roundTrips := g.roundTrips + 1 }) ∧
      BulkCall d m batch records call by
    obtain ⟨call, answer, rows, changes, ran, bulk⟩ := sent
    exact ⟨call, answer, rows, changes, ran, bulk, bulk.params, bulk.takes⟩
  by_cases single : records.length = 1
  · obtain ⟨r, rfl⟩ := List.length_eq_one_iff.1 single
    exact ⟨_, _, _, .execute _ _ _, insertRows_single plain r g, .single rfl⟩
  · have several : 2 ≤ records.length := by
      have := List.length_pos_of_ne_nil some
      omega
    simp only [if_neg single]
    by_cases joins : d.multiRowInsert = true ∧ d.Takes m batch records.length
    · obtain ⟨multi, takes⟩ := joins
      obtain ⟨s, produced⟩ := Dialect.insertMany_ok wide multi takes
      exact ⟨_, _, _, .execute _ _ _, insertRows_joint wide several multi takes produced,
        .joint several multi takes produced⟩
    · exact ⟨_, _, _, .executeBatch _ _ _, insertRows_apart wide several joins,
        .batch several joins⟩

end TableMapping

end Inserting

/-- A dialect whose inserts have room for five parameters. -/
def Sample.tight : Dialect := { Dialect.ansi with maxParams := 5, maxRows := some 3 }

open Sample in
/-- Two gauges go out in one statement. Three would be six parameters, so they go out as a batch. -/
theorem TableMapping.insertRows_sends_gauges :
    let m : TableMapping := ⟨gauge⟩
    let g : Gateway (Logged Script) :=
      { dialect := tight, rows := ⟨{ replies := [.count 2] }, []⟩ }
    let sent (records : List Record) := (m.insertRows records 10 g).2.rows.calls
    m.keyColumn.generated = false ∧
    (∃ call, sent [level 1 5, level 2 6] = [call] ∧ call.kind = .execute ∧
      call.statement.rows = 2 ∧ call.paramSets.flatten.length = 4) ∧
    (∃ call, sent [level 1 5, level 2 6, level 3 7] = [call] ∧ call.kind = .executeBatch ∧
      call.statement.rows = 1 ∧ call.paramSets.flatten.length = 6) ∧
    tight.rowsPerInsert m 10 = 2 := by
  intro m g sent
  have plain : m.keyColumn.generated = false := by decide +kernel
  have two : tight.Takes m 10 2 :=
    ⟨by decide, by decide, by simp [tight], by decide +kernel⟩
  have notThree : ¬ tight.Takes m 10 3 := fun takes => absurd takes.params (by decide +kernel)
  refine ⟨plain, ?two, ?three, by decide +kernel⟩
  case two =>
    -- what goes out is one of the ways, and the limits leave only one
    obtain ⟨-, sends, -⟩ := insertRows_sends plain [level 1 5, level 2 6] 10 g
    obtain ⟨call, answer, rows, -, ran, bulk, params, -⟩ := sends (by simp)
    refine ⟨call, congrArg (·.2.rows.calls) ran, ?_⟩
    rw [params]
    cases bulk with
    | single alone => cases alone
    | joint _ _ _ produced =>
      obtain rfl := Dialect.eq_of_insertMany_eq_ok produced
      exact ⟨rfl, rfl, by decide +kernel⟩
    | batch _ apart => exact absurd ⟨rfl, two⟩ apart
  case three =>
    obtain ⟨-, sends, -⟩ := insertRows_sends plain [level 1 5, level 2 6, level 3 7] 10 g
    obtain ⟨call, answer, rows, -, ran, bulk, params, -⟩ := sends (by simp)
    refine ⟨call, congrArg (·.2.rows.calls) ran, ?_⟩
    rw [params]
    cases bulk with
    | single alone => cases alone
    | joint _ _ takes _ => exact absurd takes notThree
    | batch => exact ⟨rfl, rfl, by decide +kernel⟩

end IdentityMap
