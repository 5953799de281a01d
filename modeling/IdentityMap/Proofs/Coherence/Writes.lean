import IdentityMap.Proofs.Coherence.Tables
import IdentityMap.Proofs.Session.Persist
/-!
# What writes do to the tables

With a faithful row store behind it, each write to the table of a type does one thing to the rows of
this table and nothing to others, and a write that fails does nothing at all: an insert stores its
records, an update stores its record if the key has a row, and a deletion takes the rows away.
-/

namespace IdentityMap

open Sql TableMapping

variable {σ : Type} [RowStore σ] {tables : σ → Tables} {types : EntityType → Prop} {t : EntityType}
  {g g' : Gateway σ}

/-! ### Inserting -/

/-- A row is stored under the key that it has. -/
def putRow (t : EntityType) (row? : Stored → Option Cells) (cells : Cells) :
    Stored → Option Cells := fun k =>
  if k = cells.cell t.key.column then some cells else row? k

theorem row?_put {T : Tables} {table : Table} (here : T t.table = some table)
    (key : table.key = t.key.column) (cells : Cells) :
    (table.rows.put cells).row? = putRow t (T.row? t.table) cells := by
  rw [Tables.row?_of_table here]
  unfold putRow
  rw [← key]
  rfl

/-- A row for every record, one after the other. -/
def putNew (t : EntityType) (row? : Stored → Option Cells) (records : List Record) :
    Stored → Option Cells :=
  records.foldl (fun row? r => putRow t row? (newCells t r)) row?

theorem putNew_cons (row? : Stored → Option Cells) (r : Record) (rest : List Record) :
    putNew t row? (r :: rest) = putNew t (putRow t row? (newCells t r)) rest := rfl

theorem row?_inserts {key : String} (own : key = t.key.column) {rows rows' : Rows key}
    {records : List Record} (inserts : rows.Inserts (records.map (newCells t)) rows') :
    rows'.row? = putNew t rows.row? records := by
  induction records generalizing rows with
  | nil => exact congrArg Rows.row? inserts
  | cons r rest ih =>
    rw [putNew_cons, ih inserts.2]
    subst own
    rfl

/-- The insert of several rows in one statement. -/
theorem insertMany_changes (typed : types t) {T T' : Tables} (keyed : Keyed types T)
    {params : List Value} {met : Nat} {records : List Record}
    (given : params = records.flatMap (bound (TableMapping.mk t).insertColumns))
    {generated : Option String}
    (effect : Effect T params met T' (.insert t.table
      (Dialect.columnNames (TableMapping.mk t).insertColumns) records.length generated)) :
    Changed T T' t.table (putNew t (T.row? t.table) records) := by
  obtain ⟨table, rows', here, inserts, rfl⟩ := effect
  rw [given, insertedCells_bound] at inserts
  rw [Tables.row?_of_table here, ← row?_inserts (keyed t typed table here) inserts]
  exact changed_set here rows'

/-- The insert of one row in one statement. -/
theorem insertOne_outcome (faithful : Faithful tables) (typed : types t) {rows next : σ}
    (keyed : Keyed types (tables rows)) {d : Dialect} {r : Record} {answer : Except Error Nat}
    (ran : RowStore.execute (d.insert ⟨t⟩) ((d.insert ⟨t⟩).bind r) rows = (answer, next)) :
    Outcome (tables rows) answer (tables next) fun _ =>
      Changed (tables rows) (tables next) t.table
        (putRow t ((tables rows).row? t.table) (newCells t r)) := by
  have outcome := faithful.execute _ _ _ _ _ ran
  cases answer with
  | error e => exact outcome
  | ok met =>
    have effect : Effect (tables rows) (bound (TableMapping.mk t).insertColumns r) met (tables next)
        (.insert t.table (Dialect.columnNames (TableMapping.mk t).insertColumns) [r].length
          (Dialect.generatedKeyOf ⟨t⟩)) := outcome
    exact insertMany_changes typed keyed (by simp) effect

theorem insertBatch_changes (typed : types t) {T T' : Tables} (keyed : Keyed types T)
    {records : List Record} {generated : Option String}
    (effects : Effects (.insert t.table
      (Dialect.columnNames (TableMapping.mk t).insertColumns) 1 generated) T
      (records.map (bound (TableMapping.mk t).insertColumns)) T') :
    Changed T T' t.table (putNew t (T.row? t.table) records) := by
  induction records generalizing T with
  | nil =>
    cases effects
    exact changed_refl T' t.table
  | cons r rest ih =>
    obtain ⟨T₁, met, effect, others⟩ := effects
    have given : bound (TableMapping.mk t).insertColumns r
        = [r].flatMap (bound (TableMapping.mk t).insertColumns) := by simp
    have first := insertMany_changes typed keyed given effect
    have later := ih (first.keyed keyed) others
    rw [first.row?] at later
    exact first.trans later

/-- A reported key is usable if its field can hold it. -/
theorem reportedKey_eq_ok {raw : Value} {key : EntityKey} :
    reportedKey ⟨t⟩ raw = .ok key ↔
      raw = key.toValue ∧ ∃ v, t.key.type.decode t.key.name raw = .ok v := by
  have read : reportedKey ⟨t⟩ raw = .ok key ↔
      ∃ v, t.key.type.decode t.key.name raw = .ok v ∧ EntityKey.ofValue? v = some key := by
    simp only [reportedKey, TableMapping.keyColumn, EntityType.columnOf]
    cases t.key.type.decode t.key.name raw with
    | error e => simp
    | ok v => cases made : EntityKey.ofValue? v <;> simp [made]
  rw [read]
  constructor
  · rintro ⟨v, fits, made⟩
    obtain rfl := ScalarType.decode_key t.wellFormed.keyType fits
    exact ⟨EntityKey.toValue_of_ofValue? made, v, fits⟩
  · rintro ⟨rfl, v, fits⟩
    obtain rfl := ScalarType.decode_key t.wellFormed.keyType fits
    exact ⟨_, fits, EntityKey.ofValue?_toValue key⟩

/-- The command of an insert that has its key generated. -/
theorem insert_command (d : Dialect) (generates : (TableMapping.mk t).keyColumn.generated = true) :
    (d.insert ⟨t⟩).command = .insert t.table
      (Dialect.columnNames (TableMapping.mk t).insertColumns) 1 (some t.key.column) := by
  show Command.insert _ _ _ (Dialect.generatedKeyOf _) = _
  rw [Dialect.generatedKeyOf, if_pos generates]
  rfl

/-- An insert that succeeds has stored the record, with its key if the key is generated. -/
theorem insertRow_stored (faithful : Faithful tables) (typed : types t)
    (keyed : Keyed types (tables g.rows)) {r : Record} {generated : Option EntityKey}
    (run : insertRow ⟨t⟩ r g = (.ok generated, g')) :
    ∃ cells, Stores t (Session.complete t r generated) cells ∧
      Changed (tables g.rows) (tables g'.rows) t.table
        (putRow t ((tables g.rows).row? t.table) cells) := by
  rcases insertRow_cases run with ⟨plain, answer, ran, same⟩ | ⟨generates, answer, ran, same⟩
  · cases answer with
    | error e => cases same
    | ok met =>
      cases same
      rw [EntityType.keyColumn_generated] at plain
      exact ⟨newCells t r, stores_newCells (by simpa using plain),
        insertOne_outcome faithful typed keyed ran⟩
  · have outcome := faithful.insertReturningKey _ _ _ _ _ ran
    cases answer with
    | error e => cases same
    | ok reported =>
      simp only [Outcome, insert_command _ generates] at outcome
      obtain ⟨table, n, here, rfl, inserted⟩ := outcome
      have key := keyed t typed table here
      obtain ⟨_, after⟩ := inserted key.symm
      rw [show (Except.ok (Value.int n)).bind (reportedKey ⟨t⟩) = reportedKey ⟨t⟩ (.int n) from rfl]
        at same
      cases usable : reportedKey ⟨t⟩ (.int n) with
      | error e => simp [usable, Except.map] at same
      | ok k =>
        rw [usable] at same
        cases same
        obtain ⟨same, _⟩ := reportedKey_eq_ok.1 usable
        obtain rfl : k = .int n := by
          cases k <;> cases same
          rfl
        refine ⟨(newCells t r).write [t.key.column] [.int n], stores_generated r n, ?_⟩
        rw [after]
        exact row?_put here key _ ▸ changed_set here _

/-- An insert stores the record, with its key if the key is generated, or does nothing. -/
theorem insertRow_outcome (hosts : Hosts tables types) (typed : types t)
    (keyed : Keyed types (tables g.rows)) {r : Record} {o : Except Error (Option EntityKey)}
    (run : insertRow ⟨t⟩ r g = (o, g')) :
    Outcome (tables g.rows) o (tables g'.rows) fun generated =>
      ∃ cells, Stores t (Session.complete t r generated) cells ∧
        Changed (tables g.rows) (tables g'.rows) t.table
          (putRow t ((tables g.rows).row? t.table) cells) := by
  cases o with
  | ok generated => exact insertRow_stored hosts.faithful typed keyed run
  | error e =>
    rcases insertRow_cases run with ⟨plain, answer, ran, same⟩ | ⟨generates, answer, ran, same⟩
    · cases answer with
      | error e => exact insertOne_outcome hosts.faithful typed keyed ran
      | ok met => cases same
    · have outcome := hosts.faithful.insertReturningKey _ _ _ _ _ ran
      cases answer with
      | error e => exact outcome
      | ok reported =>
        -- a key that was generated is usable, so the call cannot have succeeded
        have command := insert_command g.dialect generates
        have fits := hosts.generates t typed _ _ _ _ _ _ _ _ command ran
        simp only [Outcome, command] at outcome
        obtain ⟨_, n, _, rfl, _⟩ := outcome
        have usable : reportedKey ⟨t⟩ (.int n) = .ok (.int n) := reportedKey_eq_ok.2 ⟨rfl, fits⟩
        simp [Except.bind, usable, Except.map] at same

/-- The statement and the parameters of a joint insert. -/
theorem insertMany_eq {d : Dialect} {records : List Record} {statement : Statement}
    {params : List Value} (accepted : d.insertMany ⟨t⟩ records.length = .ok statement)
    (fitting : statement.bindMany records = .ok params) :
    statement.command = .insert t.table
        (Dialect.columnNames (TableMapping.mk t).insertColumns) records.length none ∧
      params = records.flatMap (bound (TableMapping.mk t).insertColumns) := by
  have some : records.length ≠ 0 := by
    intro none
    simp [Dialect.insertMany, none] at accepted
  obtain rfl := Dialect.eq_of_insertMany_eq_ok accepted
  refine ⟨rfl, ?_⟩
  unfold Statement.bindMany at fitting
  rw [if_pos (show records.length = (Dialect.statement ..).rows from rfl)] at fitting
  cases fitting
  have width : (List.replicate records.length
      (Dialect.fieldNames (TableMapping.mk t).insertColumns)).flatten.length / records.length
        = (Dialect.fieldNames (TableMapping.mk t).insertColumns).length := by
    rw [List.length_flatten, List.map_replicate, List.sum_replicate_nat,
      Nat.mul_div_cancel_left _ (Nat.pos_of_ne_zero some)]
  show Statement.bindGroups (_ / _) _ _ = _
  simp only [Dialect.statement, width]
  exact bindGroups_replicate _ records

/-- Several records with known keys are all stored, or none is. -/
theorem insertRows_outcome (faithful : Faithful tables) (typed : types t)
    (keyed : Keyed types (tables g.rows)) (assigned : t.assignment ≠ .backend)
    {records : List Record} {batch : Nat} {o : Except Error Nat}
    (run : insertRows ⟨t⟩ records batch g = (o, g')) :
    Outcome (tables g.rows) o (tables g'.rows) fun _ =>
      Changed (tables g.rows) (tables g'.rows) t.table
        (putNew t ((tables g.rows).row? t.table) records) := by
  rcases insertRows_cases run with ⟨rfl, rfl⟩ | ⟨r, answer, rfl, inserted, rfl⟩ | ⟨e, rfl, rfl⟩ |
    ⟨statement, params, accepted, fitting, ran⟩ | ran
  · cases o with
    | error e => rfl
    | ok n => exact changed_refl _ _
  · rcases insertRow_cases inserted with ⟨_, executed, ran, rfl⟩ | ⟨generates, _⟩
    · have outcome := insertOne_outcome faithful typed keyed ran
      cases executed with
      | error e => exact outcome
      | ok met => exact outcome
    · rw [EntityType.keyColumn_generated] at generates
      exact absurd (of_decide_eq_true generates) assigned
  · rfl
  · obtain ⟨command, given⟩ := insertMany_eq accepted fitting
    have outcome := faithful.execute _ _ _ _ _ ran
    cases o with
    | error e => exact outcome
    | ok met =>
      simp only [Outcome, command] at outcome
      exact insertMany_changes typed keyed given outcome
  · have outcome := faithful.executeBatch _ _ _ _ _ ran
    cases o with
    | error e => exact outcome
    | ok met => exact insertBatch_changes typed keyed outcome

/-! ### Updating -/

theorem valueOf_key {r : Record} {key : EntityKey} (carries : t.keyOf? r = some key) :
    r.valueOf t.key.name = key.toValue := by
  obtain ⟨v, found, made⟩ := Option.bind_eq_some_iff.1 carries
  rw [← EntityKey.toValue_of_ofValue? made]
  simp [Record.valueOf, found]

/-- The row of a type without values besides its key stores every record with this key. -/
theorem stores_key {r : Record} {cells : Cells} {key : EntityKey}
    (keyOnly : (TableMapping.mk t).valueColumns = []) (carries : t.keyOf? r = some key)
    (own : cells.cell t.key.column = key.stored) : Stores t r cells := by
  intro f declared
  have key' : f.name = t.key.name := by
    have column := List.filter_eq_nil_iff.1 keyOnly _ (List.mem_map_of_mem declared)
    simpa [EntityType.columnOf] using column
  obtain rfl := EntityType.field_eq declared t.wellFormed.keyDeclared key'
  rw [own, valueOf_key carries]
  rfl

/-- The statement and the parameters of an update. -/
theorem update_eq {d : Dialect} {statement : Statement} (writes : d.update ⟨t⟩ = some statement)
    (r : Record) :
    statement.command = .update t.table (Dialect.columnNames (TableMapping.mk t).valueColumns)
        t.key.column ∧
      statement.bind r = bound (TableMapping.mk t).valueColumns r ++ [r.valueOf t.key.name] := by
  obtain rfl := Dialect.eq_of_update_eq_some writes
  refine ⟨rfl, ?_⟩
  simp [Statement.bind, Dialect.statement, bound, keyColumn, EntityType.columnOf]

/-- An update stores the record if its key has a row, and does nothing otherwise. -/
inductive Updated (t : EntityType) (r : Record) (key : EntityKey) (T T' : Tables) (met : Nat) : Prop
  | missed (missing : T.row? t.table key.stored = none) (unmet : met = 0) (same : T' = T)
  | stored (cells : Cells) (present : T.row? t.table key.stored ≠ none)
    (stores : Stores t r cells) (changed : Changed T T' t.table (putRow t (T.row? t.table) cells))
    (unmet : met = 0 → T' = T)

theorem putRow_of_present {row? : Stored → Option Cells} {cells : Cells}
    (present : row? (cells.cell t.key.column) = some cells) : putRow t row? cells = row? := by
  funext k
  unfold putRow
  split
  · rename_i same
    rw [same, present]
  · rfl

theorem updateRow_outcome (faithful : Faithful tables) (typed : types t)
    (keyed : Keyed types (tables g.rows)) {r : Record} {key : EntityKey}
    (carries : t.keyOf? r = some key) {o : Except Error Nat} (run : updateRow ⟨t⟩ r g = (o, g')) :
    Outcome (tables g.rows) o (tables g'.rows)
      (Updated t r key (tables g.rows) (tables g'.rows)) := by
  have own : ∀ cells, (tables g.rows).row? t.table key.stored = some cells →
      cells.cell t.key.column = key.stored := fun _ => keyed.row_key typed
  rcases updateRow_cases run with ⟨statement, writes, ran⟩ | ⟨keyOnly, ⟨e, rfl, reads⟩ |
    ⟨key', records, carries', fetched, rfl⟩⟩
  · have outcome := faithful.execute _ _ _ _ _ ran
    obtain ⟨command, params⟩ := update_eq writes r
    rw [valueOf_key carries] at params
    cases o with
    | error e => exact outcome
    | ok met =>
      simp only [Outcome, command, params] at outcome ⊢
      obtain ⟨table, here, updates⟩ := outcome
      have length : (bound (TableMapping.mk t).valueColumns r).length
          = (Dialect.columnNames (TableMapping.mk t).valueColumns).length := by
        simp [Dialect.columnNames]
      have updates := updates key.toValue (keyed t typed table here).symm
        (key_not_mem_valueColumns t) (by rw [List.drop_left' length]; rfl)
      have found := congrFun (Tables.row?_of_table here) key.stored
      cases present : table.rows.row? key.stored with
      | none =>
        rw [show key.toValue.toStored = key.stored from rfl, present] at updates
        obtain ⟨unmet, same⟩ := updates
        exact .missed (found.trans present) unmet same
      | some cells =>
        rw [show key.toValue.toStored = key.stored from rfl, present] at updates
        obtain ⟨after, unmet⟩ := updates
        rw [Cells.write_append length] at after
        have kept := own cells (found.trans present)
        have carried : cells.cell t.key.column = (r.valueOf t.key.name).toStored := by
          rw [kept, valueOf_key carries]
          rfl
        refine .stored _ (by simp [found, present]) (stores_updated carried) ?_ unmet
        rw [after]
        exact row?_put here (keyed t typed table here) _ ▸ changed_set here _
  · exact faithful.reads reads
  · rw [carries] at carries'
    cases carries'
    have finds := fetchKey_finds faithful typed keyed fetched
    have same := faithful.reads (fetchKeys_cases fetched).1
    cases present : (tables g.rows).row? t.table key.stored with
    | none => exact .missed present (by simp [finds.2 present]) same
    | some cells =>
      refine .stored cells (by simp [present]) (stores_key keyOnly carries (own cells present)) ?_
        fun _ => same
      rw [putRow_of_present (by rw [own cells present, present]), same]
      exact changed_refl _ _

/-! ### Deleting -/

theorem deleteRows_outcome (hosts : Hosts tables types) (typed : types t)
    (keyed : Keyed types (tables g.rows)) {keys : List EntityKey} {o : Except Error Nat}
    (run : deleteRows ⟨t⟩ keys g = (o, g')) :
    Outcome (tables g.rows) o (tables g'.rows) fun _ =>
      Changed (tables g.rows) (tables g'.rows) t.table fun k =>
        if k ∈ keys.map EntityKey.stored then none else (tables g.rows).row? t.table k := by
  rcases deleteRows_cases run with ⟨rfl, rfl⟩ | ran
  · cases o with
    | error e => rfl
    | ok n => exact changed_refl _ _
  · have outcome := hosts.faithful.execute _ _ _ _ _ ran
    cases o with
    | error e => exact outcome
    | ok n =>
      obtain ⟨table, here, deletes⟩ := outcome
      have after := deletes (keyed t typed table here).symm
      rw [List.map_map] at after
      have here : tables g.rows t.table = some table := here
      show Changed _ (tables g'.rows) _ _
      rw [after, Tables.row?_of_table here]
      exact changed_set here (table.rows.remove (keys.map EntityKey.stored))

theorem deleteAllRows_outcome (hosts : Hosts tables types) {o : Except Error Nat}
    (run : deleteAllRows ⟨t⟩ g = (o, g')) :
    Outcome (tables g.rows) o (tables g'.rows) fun _ =>
      Changed (tables g.rows) (tables g'.rows) t.table fun _ => none := by
  have outcome := hosts.faithful.execute _ _ _ _ _ (deleteAllRows_cases run)
  cases o with
  | error e => exact outcome
  | ok n =>
    obtain ⟨table, here, after⟩ := outcome
    show Changed _ (tables g'.rows) _ _
    rw [after]
    exact changed_set here _

end IdentityMap
