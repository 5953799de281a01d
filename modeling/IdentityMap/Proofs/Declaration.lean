import Mathlib.Data.List.Induction
import IdentityMap.Proofs.Rows
import IdentityMap.Schema.Declaration
/-!
# Which declarations are accepted

A declaration is a row of steps. What the steps say is read off them directly: the fields in order,
the last table name, the last key, the last assignment, the indexes in order. `Declaration.Accepted`
puts the rules for them down in these terms, without the order in which the checks are made; the
builder accepts a declaration exactly if it keeps the rules, and then every field of the type is
found by its name and by its column (`Declaration.build_ok_iff_accepted`).
-/

namespace IdentityMap

/-! ### Lookups -/

namespace EntityType

variable {t : EntityType} {f : Field}

theorem field?_of_mem (listed : f ∈ t.fields) : t.field? f.name = some f :=
  find?_of_apart t.wellFormed.fields.names listed (by simp) fun g same => by simpa using same

/-- A field is found by its column in any spelling that differs in case only. -/
theorem fieldByColumn?_of_mem (listed : f ∈ t.fields) {column : String}
    (same : sameColumn column f.column) : t.fieldByColumn? column = some f := by
  refine find?_of_apart t.wellFormed.fields.columns listed (decide_eq_true same.symm) ?_
  intro g other
  exact (of_decide_eq_true other).trans same

end EntityType

namespace Declaration

/-! ### The checks -/

theorem checkFields_ok_iff {typeName : String} {before fields : List Field} :
    checkFields typeName before fields = .ok () ↔ FieldsWellFormed fields ∧
      ∀ g ∈ before, ∀ f ∈ fields, g.name ≠ f.name ∧ ¬ sameColumn g.column f.column := by
  refine ⟨fieldsWellFormed_of_checkFields, ?_⟩
  induction fields generalizing before with
  | nil => exact fun _ => rfl
  | cons f rest ih =>
    rintro ⟨wellFormed, apart⟩
    obtain ⟨nameApart, names⟩ := List.pairwise_cons.1 wellFormed.names
    obtain ⟨columnApart, columns⟩ := List.pairwise_cons.1 wellFormed.columns
    have named := wellFormed.named f List.mem_cons_self
    have later : checkFields typeName (f :: before) rest = .ok () := by
      refine ih ⟨⟨fun g listed => wellFormed.named g (List.mem_cons_of_mem _ listed), names,
        columns⟩, ?_⟩
      intro g listed k later
      rcases List.mem_cons.1 listed with rfl | listed
      · exact ⟨nameApart k later, columnApart k later⟩
      · exact apart g listed k (List.mem_cons_of_mem _ later)
    have newName : ¬ ∃ g ∈ before, g.name = f.name := fun ⟨g, listed, same⟩ =>
      (apart g listed f List.mem_cons_self).1 same
    have newColumn : ¬ ∃ g ∈ before, sameColumn g.column f.column := fun ⟨g, listed, same⟩ =>
      (apart g listed f List.mem_cons_self).2 same
    rw [checkFields, if_neg (not_or.2 named), if_neg newName, if_neg newColumn, later]

theorem checkIndexes_ok_iff {typeName : String} {fields : List Field} {indexes : List Index} :
    checkIndexes typeName fields indexes = .ok () ↔
      ∀ index ∈ indexes, index.WellFormed fields := by
  refine ⟨wellFormed_of_checkIndexes, ?_⟩
  induction indexes with
  | nil => exact fun _ => rfl
  | cons index rest ih =>
    intro wellFormed
    obtain ⟨named, covers, declared⟩ := wellFormed index List.mem_cons_self
    have known : (index.fields.find? fun name => ¬ ∃ f ∈ fields, f.name = name) = none :=
      List.find?_eq_none.2 fun name listed => by simpa using declared name listed
    rw [checkIndexes, if_neg (not_or.2 ⟨named, covers⟩), known]
    exact ih fun other listed => wellFormed other (List.mem_cons_of_mem _ listed)

/-- Every rule for a schema is checked. -/
theorem checks_of_wellFormed {d : Declaration} {key : Field}
    (wellFormed : (d.schema key).WellFormed) :
    d.checkNames = .ok () ∧ checkKey (d.schema key) = .ok () := by
  obtain ⟨named, tabled, fields, -, keyRequired, keyType, keyInteger, indexes⟩ := wellFormed
  have distinctFields : checkFields d.name [] d.fields = .ok () :=
    checkFields_ok_iff.2 ⟨fields, by simp⟩
  have integer : ¬ ((d.schema key).assignment ≠ .caller ∧
      (d.schema key).key.type.isInteger = false) := by
    rintro ⟨assigned, other⟩
    rw [keyInteger assigned] at other
    cases other
  constructor
  · rw [checkNames, if_neg (by simpa [schema] using named), if_neg (by simpa [schema] using tabled)]
    exact distinctFields
  · rw [checkKey, if_neg (by simp [keyRequired]), if_neg (by simp [keyType]), if_neg integer]
    exact checkIndexes_ok_iff.2 indexes

/-- A declaration yields just those types that have its schema, with its key. -/
theorem build_eq_ok_iff {d : Declaration} {t : EntityType} :
    d.build = .ok t ↔ ∃ key, d.key? = .ok key ∧ t.toSchema = d.schema key := by
  constructor
  · intro built
    unfold build at built
    split at built
    · cases built
    split at built
    · cases built
    rename_i key declared
    split at built
    · cases built
    · cases built
      exact ⟨key, declared, rfl⟩
  · rintro ⟨key, declared, same⟩
    have wellFormed : (d.schema key).WellFormed := same ▸ t.wellFormed
    obtain ⟨names, rest⟩ := checks_of_wellFormed wellFormed
    unfold build
    split
    · rename_i failed
      cases names.symm.trans failed
    split
    · rename_i failed
      cases declared.symm.trans failed
    rename_i found
    cases declared.symm.trans found
    split
    · rename_i failed
      cases rest.symm.trans failed
    · obtain ⟨_, _⟩ := t
      cases same
      rfl

/-! ### Steps -/

/-- One step of a declaration. -/
inductive Step
  | table (name : String)
  | key (name : String) (type : ScalarType)
  | field (name : String) (type : ScalarType)
  | nullableField (name : String) (type : ScalarType)
  | fieldDef (f : Field)
  | assignment (assignment : KeyAssignment)
  | index (index : Index)

namespace Step

def apply (d : Declaration) : Step → Declaration
  | table name => d.inTable name
  | key name type => d.withKey name type
  | field name type => d.withField (.required name type)
  | nullableField name type => d.withField (.optional name type)
  | fieldDef f => d.withField f
  | assignment a => d.assigning a
  | index i => d.withIndex i

def table? : Step → Option String
  | table name => some name
  | _ => none

/-- The field that the step declares, also as the key. -/
def field? : Step → Option Field
  | key name type | field name type => some (.required name type)
  | nullableField name type => some (.optional name type)
  | fieldDef f => some f
  | _ => none

def key? : Step → Option (String × ScalarType)
  | key name type => some (name, type)
  | _ => none

def assignment? : Step → Option KeyAssignment
  | assignment a => some a
  | _ => none

def index? : Step → Option Index
  | index i => some i
  | _ => none

end Step

/-- The declaration after some steps. -/
def declared (name : String) (steps : List Step) : Declaration :=
  steps.foldl Step.apply (start name)

variable (name : String) (steps : List Step)

def tableOf : String := (steps.filterMap Step.table?).getLast?.getD (Text.snakeCase name)

def fieldsOf : List Field := steps.filterMap Step.field?

/-- The name and the type of the key that was declared last. -/
def lastKey? : Option (String × ScalarType) := (steps.filterMap Step.key?).getLast?

def assignmentOf : KeyAssignment := (steps.filterMap Step.assignment?).getLast?.getD .caller

def indexesOf : List Index := steps.filterMap Step.index?

/-- Each step adds to the declaration what is read off it. -/
theorem declared_eq :
    declared name steps = {
      name
      tableName := (steps.filterMap Step.table?).getLast?
      fields := fieldsOf steps
      keyName := (lastKey? steps).map Prod.fst
      assignment := assignmentOf steps
      indexes := indexesOf steps } := by
  -- from the right, since of the steps of one kind it is the last that counts
  induction steps using List.reverseRecOn with
  | nil => rfl
  | append_singleton steps step ih =>
    unfold declared at ih ⊢
    rw [List.foldl_append, ih]
    cases step <;>
      simp [Step.apply, inTable, withField, withKey, assigning, withIndex, fieldsOf, lastKey?,
        assignmentOf, indexesOf, Step.table?, Step.field?, Step.key?, Step.assignment?,
        Step.index?]

/-- A key is declared with its field. -/
theorem mem_fieldsOf_of_lastKey? {steps : List Step} {key : String} {type : ScalarType}
    (last : lastKey? steps = some (key, type)) : Field.required key type ∈ fieldsOf steps := by
  obtain ⟨step, listed, declares⟩ := List.mem_filterMap.1 (List.mem_of_getLast? last)
  refine List.mem_filterMap.2 ⟨step, listed, ?_⟩
  cases step <;> cases declares
  rfl

/-- Where no field is declared twice, the key is the field of the last key step. -/
theorem key?_declared {name : String} {steps : List Step}
    (names : (fieldsOf steps).Pairwise fun f g => f.name ≠ g.name) {f : Field} :
    (declared name steps).key? = .ok f ↔
      ∃ key type, lastKey? steps = some (key, type) ∧ f = .required key type := by
  unfold Declaration.key?
  rw [declared_eq]
  cases last : lastKey? steps with
  | none => simp
  | some declaredKey =>
    obtain ⟨key, type⟩ := declaredKey
    have found : (fieldsOf steps).find? (fun f => f.name = key) = some (.required key type) :=
      find?_of_apart names (mem_fieldsOf_of_lastKey? last) (by simp [Field.required])
        fun g same => of_decide_eq_true same
    simp only [Option.map_some, found, Except.ok.injEq, Option.some.injEq, Prod.mk.injEq]
    constructor
    · rintro rfl
      exact ⟨key, type, ⟨rfl, rfl⟩, rfl⟩
    · rintro ⟨_, _, ⟨rfl, rfl⟩, rfl⟩
      rfl

/-! ### Rules -/

/-- An integer, a text, or sixteen bytes. -/
def Identifies (type : ScalarType) : Prop :=
  type ∈ [.tinyInt, .smallInt, .integer, .bigInt] ∨ (∃ limit, type = .string limit) ∨
    type = .binary (some 16)

theorem isInteger_iff {type : ScalarType} :
    type.isInteger = true ↔ type ∈ [.tinyInt, .smallInt, .integer, .bigInt] := by
  cases type <;> simp [ScalarType.isInteger]

theorem isKeyType_iff {type : ScalarType} : type.isKeyType = true ↔ Identifies type := by
  cases type <;> simp [ScalarType.isKeyType, Identifies]

/-- The steps keep the rules for a declaration. -/
structure Accepted : Prop where
  named : Text.blank name = false
  tabled : Text.blank (tableOf name steps) = false
  fields : FieldsWellFormed (fieldsOf steps)
  key : ∃ key type, lastKey? steps = some (key, type) ∧ Identifies type ∧
    (assignmentOf steps ≠ .caller → type ∈ [.tinyInt, .smallInt, .integer, .bigInt])
  indexes : ∀ index ∈ indexesOf steps, index.WellFormed (fieldsOf steps)

variable {name steps}

/-- The rules for the steps are those for the schema that they declare. -/
theorem accepted_iff :
    Accepted name steps ↔ ∃ key, (declared name steps).key? = .ok key ∧
      ((declared name steps).schema key).WellFormed := by
  constructor
  · rintro ⟨named, tabled, fields, ⟨key, type, last, identifies, integer⟩, indexes⟩
    refine ⟨.required key type, (key?_declared fields.names).2 ⟨key, type, last, rfl⟩, ?_⟩
    rw [declared_eq]
    exact {
      named, tabled, fields, indexes
      keyDeclared := mem_fieldsOf_of_lastKey? last
      keyRequired := rfl
      keyType := isKeyType_iff.2 identifies
      keyInteger := fun assigned => isInteger_iff.2 (integer assigned) }
  · rintro ⟨f, found, wellFormed⟩
    have wellFormed := (declared_eq name steps) ▸ wellFormed
    have fields : FieldsWellFormed (fieldsOf steps) := wellFormed.fields
    obtain ⟨key, type, last, rfl⟩ := (key?_declared fields.names).1 found
    exact {
      named := wellFormed.named
      tabled := wellFormed.tabled
      fields
      key := ⟨key, type, last, isKeyType_iff.1 wellFormed.keyType,
        fun assigned => isInteger_iff.1 (wellFormed.keyInteger assigned)⟩
      indexes := wellFormed.indexes }

/-- Any row of steps is accepted exactly if it keeps the rules: the names of the type and of its
table are not blank, fields and columns are named and all different, columns also beyond the case
of their letters, the last key can identify instances and is an integer unless the caller assigns
it, and indexes are named and cover declared fields. The type then has what the steps say; its key
is that of the last key step and refuses null, and every field is found by its name and by any
spelling of its column. -/
theorem build_ok_iff_accepted (name : String) (steps : List Step) :
    ((∃ t, (declared name steps).build = .ok t) ↔ Accepted name steps) ∧
    ∀ t, (declared name steps).build = .ok t →
      t.name = name ∧ t.table = tableOf name steps ∧ t.fields = fieldsOf steps ∧
      t.assignment = assignmentOf steps ∧ t.indexes = indexesOf steps ∧
      (∃ key type, lastKey? steps = some (key, type) ∧ t.key = .required key type) ∧
      t.key ∈ t.fields ∧ t.key.nullable = false ∧
      ∀ f ∈ t.fields, t.field? f.name = some f ∧
        ∀ column, sameColumn column f.column → t.fieldByColumn? column = some f := by
  constructor
  · rw [accepted_iff]
    constructor
    · rintro ⟨t, built⟩
      obtain ⟨key, found, same⟩ := build_eq_ok_iff.1 built
      exact ⟨key, found, same ▸ t.wellFormed⟩
    · rintro ⟨key, found, wellFormed⟩
      exact ⟨⟨_, wellFormed⟩, build_eq_ok_iff.2 ⟨key, found, rfl⟩⟩
  · intro t built
    obtain ⟨f, found, same⟩ := build_eq_ok_iff.1 built
    have accepted := accepted_iff.2 ⟨f, found, same ▸ t.wellFormed⟩
    obtain ⟨key, type, last, rfl⟩ := (key?_declared accepted.fields.names).1 found
    rw [declared_eq] at same
    refine ⟨congrArg Schema.name same, congrArg Schema.table same, congrArg Schema.fields same,
      congrArg Schema.assignment same, congrArg Schema.indexes same,
      ⟨key, type, last, congrArg Schema.key same⟩, t.wellFormed.keyDeclared,
      t.wellFormed.keyRequired, fun f listed => ⟨EntityType.field?_of_mem listed, ?_⟩⟩
    exact fun column => EntityType.fieldByColumn?_of_mem listed

/-- The index stands before its field, the key and the table are declared twice, and one field has a
column of its own. -/
def account : List Step := [.index { name := "by_label", fields := ["label"] },
  .key "code" (.string (some 8)), .table "a", .assignment .sequence,
  .nullableField "label" (.string none), .fieldDef ⟨"Id", "id_2", .double, true⟩, .key "id" .bigInt,
  .table "accounts"]

theorem sameColumn_id_upper : sameColumn "ID" "id" := by
  have lower (s : String) : s.toLower = s.map Char.toLower := rfl
  apply String.toList_inj.1
  simp [lower]

/-- The last key counts. A column that differs from another in case only is refused. -/
theorem build_ok_iff_accepted_account :
    (∃ t, (declared "Account" account).build = .ok t ∧ t.table = "accounts" ∧
      t.key = .required "id" .bigInt ∧ t.assignment = .sequence ∧
      t.fieldByColumn? "ID" = some t.key) ∧
    ¬ ∃ t, (declared "Account" (account ++ [.fieldDef ⟨"other", "ID", .date, true⟩])).build
      = .ok t := by
  have column : (Field.required "id" .bigInt).column = "id" := by decide +kernel
  constructor
  · have accepted : Accepted "Account" account := {
      named := by decide +kernel
      tabled := by decide +kernel
      fields := ⟨by decide +kernel, by decide +kernel, by decide +kernel⟩
      key := ⟨"id", .bigInt, rfl, .inl (by simp), by simp⟩
      indexes := by
        intro index listed
        obtain rfl : index = { name := "by_label", fields := ["label"] } := by
          simpa [indexesOf, account, Step.index?] using listed
        exact ⟨by simp, by simp, by decide +kernel⟩ }
    obtain ⟨accepts, describes⟩ := build_ok_iff_accepted "Account" account
    obtain ⟨t, built⟩ := accepts.2 accepted
    obtain ⟨-, table, -, assignment, -, ⟨key, type, last, own⟩, declared, -, finds⟩ :=
      describes t built
    have byId : lastKey? account = some ("id", .bigInt) := rfl
    cases byId.symm.trans last
    have spelling : sameColumn "ID" t.key.column := by
      rw [own, column]
      exact sameColumn_id_upper
    exact ⟨t, built, table, own, assignment, (finds t.key declared).2 "ID" spelling⟩
  · intro built
    have columns := ((build_ok_iff_accepted _ _).1.1 built).fields.columns
    rw [fieldsOf, List.filterMap_append] at columns
    have apart := (List.pairwise_append.1 columns).2.2 (.required "id" .bigInt)
      (mem_fieldsOf_of_lastKey? rfl) _ (List.mem_singleton.2 rfl)
    rw [column] at apart
    exact apart sameColumn_id_upper.symm

end Declaration

end IdentityMap
