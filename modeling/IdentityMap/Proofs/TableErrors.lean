import IdentityMap.Proofs.Gateway
import IdentityMap.Session.Persist
/-!
# Errors of work on one table

Three kinds of errors are about the registries of a session: a type is not registered, has no table,
or is registered already. Whatever is done to the table of one type reports none of them
(`Access.Plain`), if the row store reports what goes wrong in its calls as its own failures
(`RowStore.ReportsBackend`), and neither does the checking of values (`Plain`). For indexes this
rests on their being well-formed: their fields are declared, so each of them has a column.
-/

namespace IdentityMap

/-- The error is about the registries: a type is missing, or is there already. -/
def Error.aboutRegistries : Error → Bool
  | unregisteredType _ | unmappedType _ | duplicateType _ => true
  | _ => false

/-- Whatever a call fails with is a failure of the row store. -/
structure RowStore.ReportsBackend (σ : Type) [RowStore σ] : Prop where
  query : ∀ s params (rows : σ) e,
    (RowStore.query s params rows).1 = .error e → e.isBackend = true
  execute : ∀ s params (rows : σ) e,
    (RowStore.execute s params rows).1 = .error e → e.isBackend = true
  executeBatch : ∀ s paramSets (rows : σ) e,
    (RowStore.executeBatch s paramSets rows).1 = .error e → e.isBackend = true
  insertReturningKey : ∀ s params (rows : σ) e,
    (RowStore.insertReturningKey s params rows).1 = .error e → e.isBackend = true

theorem Error.eq_of_isBackend {e : Error} (backend : e.isBackend = true) :
    ∃ operation reason, e = .backend operation reason := by
  cases e with
  | backend operation reason => exact ⟨operation, reason, rfl⟩
  | _ => cases backend

theorem Error.aboutRegistries_of_isBackend {e : Error} (backend : e.isBackend = true) :
    e.aboutRegistries = false := by
  obtain ⟨_, _, rfl⟩ := eq_of_isBackend backend
  rfl

/-- The outcome is no error about the registries. -/
def Plain {α : Type} (o : Except Error α) : Prop := ∀ e, o = .error e → e.aboutRegistries = false

namespace Plain

variable {α β : Type} {o : Except Error α}

@[simp]
theorem ok (a : α) : Plain (.ok a) := by simp [Plain]

@[simp]
theorem error_iff {e : Error} :
    Plain (.error e : Except Error α) ↔ e.aboutRegistries = false := by simp [Plain]

theorem map (plain : Plain o) (f : α → β) : Plain (o.map f) := by
  cases o with
  | error e => exact error_iff.2 (plain e rfl)
  | ok a => exact ok (f a)

theorem of_isBackend (reported : ∀ e, o = .error e → e.isBackend = true) : Plain o :=
  fun e failed => Error.aboutRegistries_of_isBackend (reported e failed)

theorem not_unmapped (plain : Plain o) (n : String) : o ≠ .error (.unmappedType n) := by
  rintro rfl
  cases plain _ rfl

end Plain

/-! ### Checking values -/

section Values

variable {t : EntityType} {m : TableMapping}

theorem ScalarType.plain_decodeInteger (type : ScalarType) (bits : Nat) (field : String)
    (raw : Value) : Plain (type.decodeInteger bits field raw) := by
  unfold decodeInteger
  split
  · split
    · exact .ok _
    · exact Plain.error_iff.2 rfl
  · exact Plain.error_iff.2 rfl

theorem ScalarType.plain_decode (type : ScalarType) (field : String) (raw : Value) :
    Plain (type.decode field raw) := by
  unfold decode
  repeat' split
  all_goals first
    | exact .ok _
    | exact Plain.error_iff.2 rfl
    | exact plain_decodeInteger _ _ _ _

namespace EntityType

theorem plain_checkField (r : Record) (f : Field) : Plain (t.checkField r f) := by
  unfold checkField
  split
  · split
    · exact .ok _
    · exact Plain.error_iff.2 rfl
  · split
    · exact Plain.error_iff.2 rfl
    · exact (f.type.plain_decode _ _).map _

theorem plain_checkFields (r : Record) (fields : List Field) : Plain (t.checkFields r fields) := by
  induction fields with
  | nil => exact .ok ()
  | cons f rest ih =>
    have checked := plain_checkField (t := t) r f
    unfold checkFields
    split <;> rename_i outcome
    · exact Plain.error_iff.2 (checked _ outcome)
    · exact ih

theorem plain_check (r : Record) : Plain (t.check r) := by
  unfold check
  split
  · exact Plain.error_iff.2 rfl
  · exact plain_checkFields r _

theorem plain_checkAll (records : List Record) : Plain (t.checkAll records) := by
  induction records with
  | nil => exact .ok ()
  | cons r rest ih =>
    have checked := plain_check (t := t) r
    unfold checkAll
    split <;> rename_i outcome
    · exact Plain.error_iff.2 (checked _ outcome)
    · exact ih

theorem plain_requireKey (r : Record) : Plain (t.requireKey r) := by
  unfold requireKey
  split
  · exact .ok _
  · exact Plain.error_iff.2 rfl

theorem plain_requireKeys (seen : List EntityKey) (records : List Record) :
    Plain (t.requireKeys seen records) := by
  induction records generalizing seen with
  | nil => exact .ok ()
  | cons r rest ih =>
    have required := plain_requireKey (t := t) r
    unfold requireKeys
    split <;> rename_i outcome
    · exact Plain.error_iff.2 (required _ outcome)
    · split
      · exact Plain.error_iff.2 rfl
      · exact ih _

theorem plain_rejectKey (r : Record) : Plain (t.rejectKey r) := by
  unfold rejectKey
  split
  · exact .ok ()
  · exact .ok ()
  · exact Plain.error_iff.2 rfl

theorem plain_rejectKeys (records : List Record) : Plain (t.rejectKeys records) := by
  induction records with
  | nil => exact .ok ()
  | cons r rest ih =>
    have rejected := plain_rejectKey (t := t) r
    unfold rejectKeys
    split <;> rename_i outcome
    · exact Plain.error_iff.2 (rejected _ outcome)
    · exact ih

end EntityType

theorem Row.plain_decodeColumns (table : String) (row : Row) (columns : List Column)
    (r : Record) : Plain (row.decodeColumns table columns r) := by
  induction columns generalizing r with
  | nil => exact .ok r
  | cons c rest ih =>
    unfold decodeColumns
    split
    · exact Plain.error_iff.2 rfl
    · rename_i raw _
      have decoded := c.type.plain_decode c.field raw
      split <;> rename_i outcome
      · exact Plain.error_iff.2 (decoded _ outcome)
      · exact ih _

theorem TableMapping.plain_decodeRows (rows : List Row) : Plain (m.decodeRows rows) := by
  induction rows with
  | nil => exact .ok []
  | cons row rest ih =>
    have decoded := Row.plain_decodeColumns m.table row m.columns .empty
    unfold decodeRows
    split <;> rename_i outcome
    · exact Plain.error_iff.2 (decoded _ outcome)
    · exact ih.map _

end Values

/-! ### Statements -/

namespace Sql.Dialect

variable {d : Dialect} {m : TableMapping}

theorem plain_selectKeys (count : Nat) : Plain (d.selectKeys m count) := by
  unfold selectKeys
  split
  · exact Plain.error_iff.2 rfl
  · exact .ok _

theorem plain_deleteKeys (count : Nat) : Plain (d.deleteKeys m count) := by
  unfold deleteKeys
  split
  · exact Plain.error_iff.2 rfl
  · exact .ok _

theorem plain_insertMany (rows : Nat) : Plain (d.insertMany m rows) := by
  simp only [insertMany]
  repeat' split
  all_goals first
    | exact Plain.error_iff.2 rfl
    | exact .ok _

end Sql.Dialect

theorem Sql.Statement.plain_bindMany (s : Statement) (records : List Record) :
    Plain (s.bindMany records) := by
  unfold bindMany
  split
  · exact .ok _
  · exact Plain.error_iff.2 rfl

/-! ### The gateway -/

namespace TableMapping

theorem plain_countIn (rows : List Row) : Plain (countIn rows) := by
  unfold countIn
  split
  · exact Plain.error_iff.2 rfl
  · split
    · exact Plain.error_iff.2 rfl
    · exact .ok _

theorem plain_largestKeyIn (rows : List Row) : Plain (largestKeyIn rows) := by
  unfold largestKeyIn
  split
  on_goal 4 => exact Plain.error_iff.2 rfl
  all_goals exact .ok _

theorem plain_reportedKey (m : TableMapping) (raw : Value) : Plain (m.reportedKey raw) := by
  unfold reportedKey
  dsimp only
  split
  · exact .ok _
  · exact Plain.error_iff.2 rfl

end TableMapping

variable {σ α β : Type} [RowStore σ]

/-- However the access runs, it reports no error about the registries. -/
def Access.Plain (a : Access σ α) : Prop := ∀ g : Gateway σ, IdentityMap.Plain (a g).1

namespace Access.Plain

omit [RowStore σ] in
theorem pure (a : α) : Plain (Pure.pure a : Access σ α) := fun _ => .ok a

omit [RowStore σ] in
theorem dialect : Plain (Access.dialect : Access σ _) := fun g => .ok g.dialect

omit [RowStore σ] in
theorem ofExcept {outcome : Except Error α} (plain : IdentityMap.Plain outcome) :
    Plain (Access.ofExcept outcome : Access σ α) := fun _ => plain

omit [RowStore σ] in
theorem bind {a : Access σ α} {f : α → Access σ β} (first : Plain a) (next : ∀ x, Plain (f x)) :
    Plain (a >>= f) := by
  intro g
  have started := first g
  rcases ran : a g with ⟨e | x, g₁⟩
  · rw [ran] at started
    rw [bind_of_error ran]
    exact Plain.error_iff.2 (started e rfl)
  · rw [bind_of_ok ran]
    exact next x g₁

theorem query (reports : RowStore.ReportsBackend σ) (s : Sql.Statement) (params : List Value) :
    Plain (Access.query s params : Access σ _) :=
  fun g => .of_isBackend (reports.query s params g.rows)

theorem execute (reports : RowStore.ReportsBackend σ) (s : Sql.Statement) (params : List Value) :
    Plain (Access.execute s params : Access σ _) :=
  fun g => .of_isBackend (reports.execute s params g.rows)

theorem executeBatch (reports : RowStore.ReportsBackend σ) (s : Sql.Statement)
    (paramSets : List (List Value)) : Plain (Access.executeBatch s paramSets : Access σ _) :=
  fun g => .of_isBackend (reports.executeBatch s paramSets g.rows)

theorem insertReturningKey (reports : RowStore.ReportsBackend σ) (s : Sql.Statement)
    (params : List Value) : Plain (Access.insertReturningKey s params : Access σ _) :=
  fun g => .of_isBackend (reports.insertReturningKey s params g.rows)

end Access.Plain

namespace TableMapping

variable {m : TableMapping}

theorem plain_fetchKeys (reports : RowStore.ReportsBackend σ) (keys : List EntityKey) :
    Access.Plain (m.fetchKeys keys : Access σ _) := by
  unfold fetchKeys
  split
  · exact .pure []
  · exact Access.Plain.dialect.bind fun d => (Access.Plain.ofExcept (d.plain_selectKeys _)).bind
      fun s => (Access.Plain.query reports s _).bind fun rows => .ofExcept (plain_decodeRows rows)

theorem plain_fetchAll (reports : RowStore.ReportsBackend σ) :
    Access.Plain (m.fetchAll : Access σ _) :=
  Access.Plain.dialect.bind fun _ => (Access.Plain.query reports _ _).bind fun rows =>
    .ofExcept (plain_decodeRows rows)

theorem plain_countRows (reports : RowStore.ReportsBackend σ) :
    Access.Plain (m.countRows : Access σ _) :=
  Access.Plain.dialect.bind fun _ => (Access.Plain.query reports _ _).bind fun rows =>
    .ofExcept (plain_countIn rows)

theorem plain_largestKey (reports : RowStore.ReportsBackend σ) :
    Access.Plain (m.largestKey : Access σ _) :=
  Access.Plain.dialect.bind fun _ => (Access.Plain.query reports _ _).bind fun rows =>
    .ofExcept (plain_largestKeyIn rows)

theorem plain_insertRow (reports : RowStore.ReportsBackend σ) (r : Record) :
    Access.Plain (m.insertRow r : Access σ _) := by
  refine Access.Plain.dialect.bind fun d => ?_
  split
  · exact (Access.Plain.insertReturningKey reports _ _).bind fun raw =>
      (Access.Plain.ofExcept (m.plain_reportedKey raw)).bind fun _ => .pure _
  · exact (Access.Plain.execute reports _ _).bind fun _ => .pure _

theorem plain_insertRows (reports : RowStore.ReportsBackend σ) (records : List Record)
    (batch : Nat) : Access.Plain (m.insertRows records batch : Access σ _) := by
  refine Access.Plain.dialect.bind fun d => ?_
  split
  · exact .pure 0
  · exact (plain_insertRow reports _).bind fun _ => .pure 1
  · split
    · exact (Access.Plain.ofExcept (d.plain_insertMany _)).bind fun s =>
        (Access.Plain.ofExcept (s.plain_bindMany _)).bind fun _ => .execute reports _ _
    · exact .executeBatch reports _ _

theorem plain_rowExists (reports : RowStore.ReportsBackend σ) (key : EntityKey) :
    Access.Plain (m.rowExists key : Access σ _) :=
  (plain_fetchKeys reports [key]).bind fun _ => .pure _

theorem plain_updateRow (reports : RowStore.ReportsBackend σ) (r : Record) :
    Access.Plain (m.updateRow r : Access σ _) := by
  refine Access.Plain.dialect.bind fun d => ?_
  split
  · exact .execute reports _ _
  · split
    · exact .ofExcept (Plain.error_iff.2 rfl)
    · exact (plain_rowExists reports _).bind fun _ => .pure _

theorem plain_deleteRows (reports : RowStore.ReportsBackend σ) (keys : List EntityKey) :
    Access.Plain (m.deleteRows keys : Access σ _) := by
  unfold deleteRows
  split
  · exact .pure 0
  · exact Access.Plain.dialect.bind fun d => (Access.Plain.ofExcept (d.plain_deleteKeys _)).bind
      fun s => .execute reports s _

theorem plain_deleteAllRows (reports : RowStore.ReportsBackend σ) :
    Access.Plain (m.deleteAllRows : Access σ _) :=
  Access.Plain.dialect.bind fun _ => .execute reports _ _

end TableMapping

end IdentityMap
