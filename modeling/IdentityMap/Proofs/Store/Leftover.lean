import IdentityMap.Proofs.Store.Overwrite
/-!
# Rows that a failed persist leaves behind

A persist that fails leaves every table as it was, in front of a faithful row store, with one
exception (`Store.failed_persist`). Most of what can go wrong is found out before anything is
written, and a statement that fails has done nothing. But a generated key comes with the row that it
is for: if the key field cannot hold it the creation fails, and the row is there. It is neither
cached nor taken away again (`Store.failed_persist_leaves_dot`).
-/

namespace IdentityMap

open Sql TableMapping

variable {σ τ : Type} [RowStore σ] [TriggerHost τ] {tables : σ → Tables}

/-! ### Inserting -/

/-- Why a creation fails whose row was inserted under a key that is of no use. -/
def unusableKey : Error := .backend "insert" "row store returned no usable key"

/-- A row with some values was inserted under a generated key, which its key field cannot hold. -/
structure LeftBehind (t : EntityType) (values : Record) (n : Int64) (T T' : Tables) : Prop where
  assigned : t.assignment = .backend
  unfit : ∀ v, t.key.type.decode t.key.name (.int n) ≠ .ok v
  free : T.row? t.table (.integer n) = none
  inserted : ∃ cells, Stores t (t.withKey values (.int n)) cells ∧
    Changed T T' t.table (putRow t (T.row? t.table) cells)

theorem TableMapping.reportedKey_cases (m : TableMapping) (raw : Value) :
    (∃ key, m.reportedKey raw = .ok key) ∨ m.reportedKey raw = .error unusableKey := by
  unfold reportedKey
  dsimp only
  split
  · exact .inl ⟨_, rfl⟩
  · exact .inr rfl

/-- An insert that fails has done nothing, or has left its row behind. -/
theorem insertRow_failed {types : EntityType → Prop} {t : EntityType} {g g' : Gateway σ}
    (faithful : Faithful tables) (typed : types t) (keyed : Keyed types (tables g.rows))
    {r : Record} {e : Error} (run : insertRow ⟨t⟩ r g = (.error e, g')) :
    tables g'.rows = tables g.rows ∨
    e = unusableKey ∧ ∃ n, LeftBehind t r n (tables g.rows) (tables g'.rows) := by
  rcases insertRow_cases run with ⟨_, answer, ran, same⟩ | ⟨generates, answer, ran, same⟩
  · cases answer with
    | error e => exact .inl (insertOne_outcome faithful typed keyed ran)
    | ok met => cases same
  have outcome := faithful.insertReturningKey _ _ _ _ _ ran
  cases answer with
  | error e => exact .inl outcome
  | ok reported =>
    simp only [Outcome, insert_command _ generates] at outcome
    obtain ⟨table, n, here, rfl, inserted⟩ := outcome
    have key := keyed t typed table here
    obtain ⟨free, after⟩ := inserted key.symm
    rw [show (Except.ok (Value.int n)).bind (reportedKey ⟨t⟩) = reportedKey ⟨t⟩ (.int n) from rfl]
      at same
    rcases reportedKey_cases ⟨t⟩ (.int n) with ⟨k, usable⟩ | unusable
    · simp [usable, Except.map] at same
    rw [unusable] at same
    cases same
    refine .inr ⟨rfl, n, ?_, fun v fits => ?_, ?_, _, stores_generated r n, ?_⟩
    · rw [EntityType.keyColumn_generated] at generates
      exact of_decide_eq_true generates
    · have usable : reportedKey ⟨t⟩ (.int n) = .ok (.int n) := reportedKey_eq_ok.2 ⟨rfl, v, fits⟩
      rw [unusable] at usable
      cases usable
    · rw [Tables.row?_of_table here]
      exact free
    · rw [after]
      exact row?_put here key _ ▸ changed_set here _

namespace Session

variable {s s' : Session σ} {c : IdentityCache} {values : Record} {types : EntityType → Prop}

/-! ### Creating and changing -/

theorem CreateEnds.failed (faithful : Faithful tables) (typed : types c.entityType)
    (keyed : Keyed types (tables s.gateway.rows)) {e : Error}
    (ends : CreateEnds s s' c values (.error e)) :
    tables s'.gateway.rows = tables s.gateway.rows ∨ e = unusableKey ∧ Quiet s s' ∧
      ∃ n, LeftBehind c.entityType values n (tables s.gateway.rows) (tables s'.gateway.rows) := by
  cases ends with
  | refused _ looks => exact .inl (faithful.reads looks.reads)
  | @uninserted t record _ looks prepared failed quiet =>
    have same := faithful.reads looks.reads
    rcases insertRow_failed faithful typed (same ▸ keyed) failed with still | ⟨rfl, n, left⟩
    · exact .inl (still.trans same)
    -- the record goes in as it was given, since its key is left to the row store
    cases prepared with
    | sequence _ assigned => cases assigned.symm.trans left.assigned
    | caller _ assigned => cases assigned.symm.trans left.assigned
    | backend => exact .inr ⟨rfl, quiet, n, same ▸ left⟩

/-- A change that fails has written nothing. -/
theorem ModifyEnds.failed (faithful : Faithful tables) (typed : types c.entityType)
    (keyed : Keyed types (tables s.gateway.rows)) {key : EntityKey} {e : Error}
    (ends : ModifyEnds s s' c key values (.error e)) :
    tables s'.gateway.rows = tables s.gateway.rows := by
  cases ends with
  | refused _ looks => exact faithful.reads looks.reads
  | unwritten _ begun failed => exact begun.outcome faithful typed keyed failed
  | unconfirmed _ begun unmet reads =>
    exact (faithful.reads reads).trans (begun.unmet faithful typed keyed unmet)
  | gone begun unmet missing =>
    exact (faithful.reads (rowExists_reads missing)).trans (begun.unmet faithful typed keyed unmet)

end Session

namespace Store

open Session

/-- A persist that fails leaves all tables as they were, unless it creates an instance under a
generated key that the key field cannot hold; then it leaves the row, with the values of the draft
and the generated key, and the caches know nothing of it. -/
theorem failed_persist (faithful : Faithful tables) {s : Store σ τ} (shared : s.Shared) {d : Draft}
    {c : IdentityCache} (registered : s.session.caches.get? d.entityType.name = some c)
    (keyed : ∀ table, tables s.session.gateway.rows c.entityType.table = some table →
      table.key = c.entityType.key.column) {e : Error}
    (failed : (s.ask (.persist d)).1 = .error e) :
    let s' := (s.ask (.persist d)).2
    let T := tables s.session.gateway.rows
    let T' := tables s'.session.gateway.rows
    T' = T ∨
    d.intent = .create ∧ e = unusableKey ∧ s'.session.caches = s.session.caches ∧
      ∃ n, LeftBehind c.entityType d.values n T T' := by
  obtain ⟨o, u, ran, outcome, after, -⟩ := ask_cases (.persist d) s
  obtain ⟨answer, persisted, same⟩ := Request.instancesIn_cases ran
  dsimp only
  rw [after]
  rw [outcome, same] at failed
  cases answer with
  | ok h => cases failed
  | error e =>
    cases failed
    have keyed : Keyed (Eq c.entityType) (tables s.session.gateway.rows) := by
      rintro _ rfl
      exact keyed
    rcases persist_cases shared.sound persisted with ⟨_, -, looks⟩ | ⟨c₁, cached, named, ends⟩
    · exact .inl (faithful.reads looks.reads)
    rw [registered] at cached
    obtain rfl := Option.some.inj cached
    rcases ends with ⟨create, ends⟩ | ⟨key, -, ends⟩
    · rcases ends.failed faithful rfl keyed with still | ⟨unusable, quiet, left⟩
      · exact .inl still
      · exact .inr ⟨create, unusable, quiet.caches, left⟩
    · have still := ends.failed faithful rfl keyed
      exact .inl still

end Store

/-! ### Dots, with tiny keys -/

namespace Sample

/-- A dot has a level, and its key is generated. -/
def dot : EntityType where
  name := "Dot"
  table := "dot"
  fields := [.required "id" .tinyInt, .optional "level" .double]
  key := .required "id" .tinyInt
  assignment := .backend
  indexes := []
  wellFormed := {
    named := by decide +kernel
    tabled := by decide +kernel
    fields := ⟨by decide +kernel, by decide +kernel, by decide +kernel⟩
    keyDeclared := by decide +kernel
    keyRequired := rfl
    keyType := rfl
    keyInteger := by simp [Field.required, ScalarType.isInteger]
    indexes := by simp }

/-- The positive tiny integers. -/
def dotKeys : List Stored := (List.range 127).map fun n => .integer (.ofNat (n + 1))

/-- A dot for each of them. -/
def dots : Shelf where
  table := {
    key := "id"
    rows := {
      row? := fun k => if k ∈ dotKeys then some (Cells.null.write ["id"] [k.toValue]) else none
      keyed := by
        intro k cells found
        split at found <;> cases found
        rename_i listed
        obtain ⟨n, _, rfl⟩ := List.mem_map.1 listed
        rfl } }
  keys := dotKeys
  listed k cells found := by
    by_contra other
    simp [other] at found

/-- A store in front of the dots. -/
def dotted : Store Memory ScriptedHost where
  session := {
    settings := {}
    gateway := {
      dialect := Sql.Dialect.ansi
      rows := ⟨fun name => if name = "dot" then some dots else none, []⟩ } }
  host := {}

theorem opened_dotted : Store.openWith Sql.Dialect.ansi {} dotted.session.gateway.rows
    ({} : ScriptedHost) = .ok dotted := rfl

/-- A new dot. -/
def oneMore : Draft :=
  ⟨dot, .create, OrderedMap.ofList [("level", .float (Binary64.ofInt 5))]⟩

/-- The level of the dot under a key, if there is one. -/
def level? (s : Store Memory ScriptedHost) (n : Int64) : Option Stored :=
  ((Memory.tables s.session.gateway.rows).row? "dot" (.integer n)).map (·.cell "level")

end Sample

namespace Store

theorem shared_dotted : (Sample.dotted.after [.request (.register Sample.dot)]).Shared :=
  (Shared.opened Sample.opened_dotted).after _

/-- All tiny keys are taken. The next dot gets a row under 128, and its creation fails. -/
theorem failed_persist_leaves_dot :
    let s := Sample.dotted.after [.request (.register Sample.dot)]
    Faithful Memory.tables ∧ s.Shared ∧
      s.session.caches.get? "Dot" = some (.new Sample.dot) ∧
      (s.ask (.persist Sample.oneMore)).1 = .error unusableKey ∧
      Sample.level? s 128 = none ∧
      Sample.level? (s.ask (.persist Sample.oneMore)).2 128 = some (.real (Binary64.ofInt 5)) := by
  refine ⟨Memory.faithful, shared_dotted, ?_⟩
  decide +kernel

/-- The row of the dot that could not be created is all that is left of it. -/
theorem failed_persist_dot :
    let s := Sample.dotted.after [.request (.register Sample.dot)]
    let s' := (s.ask (.persist Sample.oneMore)).2
    s'.session.caches = s.session.caches ∧ ∃ n, LeftBehind Sample.dot Sample.oneMore.values n
      (Memory.tables s.session.gateway.rows) (Memory.tables s'.session.gateway.rows) := by
  intro s s'
  have registered : s.session.caches.get? "Dot" = some (.new Sample.dot) := by decide +kernel
  have failed : (s.ask (.persist Sample.oneMore)).1 = .error unusableKey := by decide +kernel
  have key : (Memory.tables s.session.gateway.rows "dot").map (·.key) = some "id" := by
    decide +kernel
  have levels : Sample.level? s 128 ≠ Sample.level? s' 128 := by decide +kernel
  have shared : s.Shared := shared_dotted
  have keyed (table : Table) (here : Memory.tables s.session.gateway.rows "dot" = some table) :
      table.key = "id" := Tables.key_of_map key here
  -- from here on it does not matter what the state is, and evaluating it would take long
  clear_value s
  have ends := failed_persist Memory.faithful shared (d := Sample.oneMore) registered keyed failed
  rcases ends with same | ⟨-, -, caches, left⟩
  · refine absurd ?_ levels
    unfold Sample.level?
    rw [same]
  · exact ⟨caches, left⟩

end Store

end IdentityMap
