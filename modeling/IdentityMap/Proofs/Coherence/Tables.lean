import IdentityMap.Proofs.Coherence.Mirror
import IdentityMap.Proofs.Gateway
/-!
# The tables of types

A row store hosts some types if it is faithful and keeps a table for each of them (`Hosts`). An
operation that changes the rows of one table leaves the others alone (`Changed`), and a look-up
brings the rows with the keys that it asks for and changes nothing.
-/

namespace IdentityMap

open Sql

variable {σ : Type} [RowStore σ]

/-! ### Tables for types -/

/-- The tables of the types have the key columns that the types declare. -/
def Keyed (types : EntityType → Prop) (T : Tables) : Prop :=
  ∀ t, types t → ∀ table, T t.table = some table → table.key = t.key.column

/-- The row store faithfully holds the tables of some types, each type its own, and generates keys
that their key columns can hold. No type has a field of a type that is known by its name only. -/
structure Hosts (tables : σ → Tables) (types : EntityType → Prop) : Prop where
  faithful : Faithful tables
  apart : ∀ t u, types t → types u → t.table = u.table → t = u
  known : ∀ t, types t → ∀ f ∈ t.fields, ∀ name, f.type ≠ .other name
  generates : ∀ t, types t → ∀ s columns count key params (rows next : σ) reported,
    s.command = .insert t.table columns count (some key) →
    RowStore.insertReturningKey s params rows = (.ok reported, next) →
    ∃ v, t.key.type.decode t.key.name reported = .ok v

/-- The rows of one table are other ones now, and nothing else has changed. -/
structure Changed (T T' : Tables) (name : String) (row?' : Stored → Option Cells) : Prop where
  row? : T'.row? name = row?'
  others : ∀ other, other ≠ name → T'.row? other = T.row? other
  keys : ∀ other table', T' other = some table' →
    ∃ table, T other = some table ∧ table.key = table'.key

section Tables

variable {T T' : Tables} {types : EntityType → Prop} {t : EntityType} {name : String}
  {row?' : Stored → Option Cells}

theorem Keyed.row_key (keyed : Keyed types T) (typed : types t) {k : Stored} {cells : Cells}
    (found : T.row? t.table k = some cells) : cells.cell t.key.column = k := by
  obtain ⟨table, here, row⟩ := Option.bind_eq_some_iff.1 found
  rw [← keyed t typed table here]
  exact table.rows.keyed k cells row

theorem Tables.row?_of_table {table : Table} (here : T name = some table) :
    T.row? name = table.rows.row? := by
  funext k
  simp [Tables.row?, here]

theorem changed_refl (T : Tables) (name : String) : Changed T T name (T.row? name) :=
  ⟨rfl, fun _ _ => rfl, fun _ table here => ⟨table, here, rfl⟩⟩

theorem changed_set {table : Table} (here : T name = some table) (rows : Rows table.key) :
    Changed T (T.set name rows) name rows.row? where
  row? := by
    funext k
    simp [Tables.row?, Tables.set]
  others other differ := by
    funext k
    simp [Tables.row?, Tables.set, differ]
  keys other table' there := by
    unfold Tables.set at there
    split at there
    · rename_i same
      cases there
      exact ⟨table, same ▸ here, rfl⟩
    · exact ⟨table', there, rfl⟩

theorem Changed.keyed (changed : Changed T T' name row?') (keyed : Keyed types T) :
    Keyed types T' := by
  intro t typed table' there
  obtain ⟨table, here, same⟩ := changed.keys _ table' there
  rw [← same]
  exact keyed t typed table here

theorem Changed.trans {T₁ : Tables} {row?₁ : Stored → Option Cells}
    (first : Changed T T₁ name row?₁) (later : Changed T₁ T' name row?') :
    Changed T T' name row?' where
  row? := later.row?
  others other differ := (later.others other differ).trans (first.others other differ)
  keys other table' there := by
    obtain ⟨table₁, between, same⟩ := later.keys other table' there
    obtain ⟨table, here, same₁⟩ := first.keys other table₁ between
    exact ⟨table, here, same₁.trans same⟩

end Tables

/-! ### Reading -/

variable {tables : σ → Tables} {types : EntityType → Prop} {t : EntityType} {g g' : Gateway σ}

/-- Queries do nothing to the tables. -/
theorem Sql.Faithful.reads (faithful : Faithful tables) (reads : Gateway.Reads g g') :
    tables g'.rows = tables g.rows := by
  induction reads with
  | refl _ => rfl
  | @query g g₁ g' s params asked _ ih =>
    rw [ih, asked]
    rcases answered : RowStore.query s params g.rows with ⟨answer, next⟩
    have outcome := faithful.query s params g.rows answer next answered
    cases answer with
    | error e => exact outcome
    | ok found => exact outcome.2

open TableMapping IdentityCache

theorem brought_of_decodeRows {T : Tables} {wanted : Stored → Prop} {key : String}
    {rows : Rows key} {answer : List Row} {records : List Record}
    (keyed : ∀ k cells, T.row? t.table k = some cells → cells.cell t.key.column = k)
    (here : T.row? t.table = rows.row?)
    (brings : rows.Brings (Dialect.columnNames (TableMapping.mk t).columns) wanted answer)
    (decoded : decodeRows ⟨t⟩ answer = .ok records) :
    Brought t (T.row? t.table) wanted records := by
  obtain ⟨found, rfl, listed⟩ := brings
  obtain ⟨origin, complete⟩ := mem_decodeRows decoded
  rw [here] at keyed ⊢
  refine ⟨keyed, ?_, ?_⟩
  · intro r member
    obtain ⟨row, shown, same⟩ := origin r member
    obtain ⟨cells, brought, rfl⟩ := List.mem_map.1 shown
    obtain ⟨k, asked, present⟩ := (listed cells).1 brought
    exact ⟨k, cells, asked, present, same⟩
  · intro k cells asked present
    exact complete _ (List.mem_map_of_mem ((listed cells).2 ⟨k, asked, present⟩))

theorem fetchKeys_brings (faithful : Faithful tables) (typed : types t)
    (keyed : Keyed types (tables g.rows)) {keys : List EntityKey} {records : List Record}
    (run : fetchKeys ⟨t⟩ keys g = (.ok records, g')) :
    Brought t ((tables g.rows).row? t.table) (· ∈ keys.map EntityKey.stored) records := by
  have own : ∀ k cells, (tables g.rows).row? t.table k = some cells →
      cells.cell t.key.column = k := fun _ _ => keyed.row_key typed
  rcases (fetchKeys_cases run).2 records rfl with ⟨rfl, rfl, rfl⟩ |
    ⟨answer, statement, produced, asked, decoded⟩
  · exact ⟨own, by simp, by simp⟩
  · obtain rfl := Dialect.eq_of_selectKeys_eq_ok produced
    obtain ⟨⟨table, here, brings⟩, _⟩ := faithful.query _ _ _ _ _ asked
    have brings := brings (keyed t typed table here).symm
    rw [List.map_map] at brings
    exact brought_of_decodeRows own (Tables.row?_of_table here) brings decoded

theorem fetchAll_brings (faithful : Faithful tables) (typed : types t)
    (keyed : Keyed types (tables g.rows)) {records : List Record}
    (run : fetchAll ⟨t⟩ g = (.ok records, g')) :
    Brought t ((tables g.rows).row? t.table) (fun _ => True) records := by
  obtain ⟨answer, asked, decoded⟩ := (fetchAll_cases run).2 records rfl
  obtain ⟨⟨table, here, brings⟩, _⟩ := faithful.query _ _ _ _ _ asked
  exact brought_of_decodeRows (fun _ _ => keyed.row_key typed) (Tables.row?_of_table here) brings
    decoded

/-- A look-up of one key finds something exactly where there is a row. -/
theorem fetchKey_finds (faithful : Faithful tables) (typed : types t)
    (keyed : Keyed types (tables g.rows)) {key : EntityKey} {records : List Record}
    (run : fetchKeys ⟨t⟩ [key] g = (.ok records, g')) :
    records = [] ↔ (tables g.rows).row? t.table key.stored = none := by
  have brought := fetchKeys_brings faithful typed keyed run
  constructor
  · intro empty
    cases present : (tables g.rows).row? t.table key.stored with
    | none => rfl
    | some cells =>
      obtain ⟨r, member, _⟩ := brought.complete _ cells (by simp) present
      rw [empty] at member
      cases member
  · intro missing
    refine List.eq_nil_iff_forall_not_mem.2 fun r member => ?_
    obtain ⟨k, cells, asked, present, _⟩ := brought.origin r member
    obtain rfl : k = key.stored := by simpa using asked
    rw [missing] at present
    cases present

/-- An answer to a query for one key that has a row consists of this row. -/
theorem answer_of_key (faithful : Faithful tables) (typed : types t) {rows next : σ}
    (keyed : Keyed types (tables rows)) {key : EntityKey} {cells : Cells}
    (present : (tables rows).row? t.table key.stored = some cells) {d : Dialect}
    {statement : Statement} (produced : d.selectKeys ⟨t⟩ 1 = .ok statement) {answer : List Row}
    (answered : RowStore.query statement [key.toValue] rows = (.ok answer, next)) :
    answer ≠ [] ∧ ∀ row ∈ answer, row = cells.rowOf t := by
  obtain rfl := Dialect.eq_of_selectKeys_eq_ok produced
  obtain ⟨⟨table, here, brings⟩, _⟩ := faithful.query _ _ _ _ _ answered
  obtain ⟨found, rfl, listed⟩ := brings (keyed t typed table here).symm
  have same : (tables rows).row? t.table = table.rows.row? := Tables.row?_of_table here
  rw [same] at present
  have only (other : Cells) : other ∈ found ↔ other = cells := by
    have asked : key.toValue.toStored = key.stored := rfl
    simp [listed other, asked, present, eq_comm]
  constructor
  · intro none
    have member := (only cells).2 rfl
    rw [List.map_eq_nil_iff.1 none] at member
    cases member
  · intro row shown
    obtain ⟨other, member, rfl⟩ := List.mem_map.1 shown
    rw [(only other).1 member]
    rfl

/-- A key that has a row is fetched, if the query is answered. -/
theorem fetchKey_answered (faithful : Faithful tables) (typed : types t)
    (keyed : Keyed types (tables g.rows)) {key : EntityKey} {cells : Cells}
    (present : (tables g.rows).row? t.table key.stored = some cells) {statement : Statement}
    (produced : g.dialect.selectKeys ⟨t⟩ 1 = .ok statement) {answer : List Row} {next : σ}
    (answered : RowStore.query statement [key.toValue] g.rows = (.ok answer, next)) {r : Record}
    (decoded : (cells.rowOf t).decode ⟨t⟩ = .ok r) :
    ∃ n g', fetchKeys ⟨t⟩ [key] g = (.ok (List.replicate (n + 1) r), g') := by
  obtain ⟨some, alike⟩ := answer_of_key faithful typed keyed present produced answered
  obtain ⟨first, rest, rfl⟩ := List.exists_cons_of_ne_nil some
  have read := decodeRows_replicate fun row shown => (alike row shown) ▸ decoded
  exact ⟨rest.length, _, read ▸ fetchKeys_answered produced answered⟩

theorem rowExists_finds (faithful : Faithful tables) (typed : types t)
    (keyed : Keyed types (tables g.rows)) {key : EntityKey} {present : Bool}
    (run : rowExists ⟨t⟩ key g = (.ok present, g')) :
    present = false ↔ (tables g.rows).row? t.table key.stored = none := by
  rcases rowExists_cases run with ⟨_, impossible, _⟩ | ⟨records, found, fetched⟩
  · cases impossible
  · cases found
    rw [← fetchKey_finds faithful typed keyed fetched]
    simp

end IdentityMap
