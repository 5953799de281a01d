import IdentityMap.Schema.EntityType
/-!
# Declaring entity types

A `Declaration` is filled in step by step and built once. `Declaration.build` reports the first
fault in a fixed order: names, fields in declared order, the key, then the indexes. Without a fault
it yields the entity type; that the schema is well-formed then is `wellFormed_of_checks`.
-/

namespace IdentityMap

structure Declaration where
  name : String
  tableName : Option String := none
  fields : List Field := []
  keyName : Option String := none
  assignment : KeyAssignment := .caller
  indexes : List Index := []
deriving DecidableEq, Repr

namespace Declaration

def start (name : String) : Declaration := { name }

def inTable (d : Declaration) (table : String) : Declaration := { d with tableName := some table }

def withField (d : Declaration) (f : Field) : Declaration := { d with fields := d.fields ++ [f] }

/-- Declare the field that identifies an instance; the last such field is the key. -/
def withKey (d : Declaration) (name : String) (type : ScalarType) : Declaration :=
  { d with fields := d.fields ++ [Field.required name type], keyName := some name }

def assigning (d : Declaration) (assignment : KeyAssignment) : Declaration :=
  { d with assignment }

def withIndex (d : Declaration) (index : Index) : Declaration :=
  { d with indexes := d.indexes ++ [index] }

/-- The table's name; without one the type's name in snake case. -/
def table (d : Declaration) : String := d.tableName.getD (Text.snakeCase d.name)

/-- Check each field against those `before` it, the nearest first. -/
def checkFields (typeName : String) : (before fields : List Field) → Except Fault Unit
  | _, [] => .ok ()
  | before, f :: rest =>
    if f.name = "" ∨ f.column = "" then .error (.emptyFieldName typeName)
    else if ∃ g ∈ before, g.name = f.name then .error (.repeatedField typeName f.name)
    else if ∃ g ∈ before, sameColumn g.column f.column then
      .error (.repeatedColumn typeName f.column)
    else checkFields typeName (f :: before) rest

def checkNames (d : Declaration) : Except Fault Unit :=
  if Text.blank d.name then .error .blankTypeName
  else if Text.blank d.table then .error (.blankTableName d.name)
  else checkFields d.name [] d.fields

/-- The field that the declaration names as the key. -/
def key? (d : Declaration) : Except Fault Field :=
  match d.keyName with
  | none => .error (.noKeyField d.name)
  | some name =>
    match d.fields.find? fun f => f.name = name with
    | none => .error (.missingKeyField d.name)
    | some f => .ok f

def checkIndexes (typeName : String) (fields : List Field) : List Index → Except Fault Unit
  | [] => .ok ()
  | index :: rest =>
    if index.name = "" ∨ index.fields = [] then .error (.emptyIndex typeName)
    else
      match index.fields.find? fun name => ¬ ∃ f ∈ fields, f.name = name with
      | some name => .error (.unknownIndexField typeName index.name name)
      | none => checkIndexes typeName fields rest

def checkKey (s : Schema) : Except Fault Unit :=
  if s.key.nullable then .error (.nullableKey s.name s.key.name)
  else if s.key.type.isKeyType = false then
    .error (.unsuitableKeyType s.name s.key.name s.key.type.display)
  else if s.assignment ≠ .caller ∧ s.key.type.isInteger = false then
    .error (.generatedKeyNotInteger s.name)
  else checkIndexes s.name s.fields s.indexes

/-- The declared schema, once its key is known. -/
def schema (d : Declaration) (key : Field) : Schema :=
  ⟨d.name, d.table, d.fields, key, d.assignment, d.indexes⟩

/-! ### What the checks establish -/

theorem fieldsWellFormed_of_checkFields {typeName : String} {before fields : List Field}
    (h : checkFields typeName before fields = .ok ()) :
    FieldsWellFormed fields
      ∧ (∀ g ∈ before, ∀ f ∈ fields, g.name ≠ f.name ∧ ¬ sameColumn g.column f.column) := by
  induction fields generalizing before with
  | nil => exact ⟨⟨by simp, .nil, .nil⟩, by simp⟩
  | cons f rest ih =>
    simp only [checkFields] at h
    split at h
    · cases h
    · rename_i named
      split at h
      · cases h
      · rename_i fresh
        split at h
        · cases h
        · rename_i freshColumn
          obtain ⟨later, apart⟩ := ih h
          have byHead := apart f List.mem_cons_self
          refine ⟨⟨?_, ?_, ?_⟩, ?_⟩
          · intro g hg
            rcases List.mem_cons.1 hg with rfl | hg
            · exact not_or.1 named
            · exact later.named g hg
          · exact List.pairwise_cons.2 ⟨fun g hg => (byHead g hg).1, later.names⟩
          · exact List.pairwise_cons.2 ⟨fun g hg => (byHead g hg).2, later.columns⟩
          · intro g hg k hk
            rcases List.mem_cons.1 hk with rfl | hk
            · exact ⟨fun e => fresh ⟨g, hg, e⟩, fun e => freshColumn ⟨g, hg, e⟩⟩
            · exact apart g (List.mem_cons_of_mem _ hg) k hk

theorem wellFormed_of_checkIndexes {typeName : String} {fields : List Field} {indexes : List Index}
    (h : checkIndexes typeName fields indexes = .ok ()) :
    ∀ index ∈ indexes, index.WellFormed fields := by
  induction indexes with
  | nil => simp
  | cons head rest ih =>
    simp only [checkIndexes] at h
    split at h
    · cases h
    · rename_i named
      split at h
      · cases h
      · rename_i declared
        intro index hi
        rcases List.mem_cons.1 hi with rfl | hi
        · refine ⟨(not_or.1 named).1, (not_or.1 named).2, fun name hn => ?_⟩
          have := List.find?_eq_none.1 declared name hn
          simpa using this
        · exact ih h index hi

theorem key?_mem {d : Declaration} {key : Field} (h : d.key? = .ok key) : key ∈ d.fields := by
  unfold key? at h
  split at h
  · cases h
  · split at h
    · cases h
    · rename_i found
      cases h
      exact List.mem_of_find?_eq_some found

theorem wellFormed_of_checks {d : Declaration} {key : Field} (names : d.checkNames = .ok ())
    (declared : d.key? = .ok key) (rest : checkKey (d.schema key) = .ok ()) :
    (d.schema key).WellFormed := by
  unfold checkNames at names
  unfold checkKey at rest
  split at names
  · cases names
  · rename_i named
    split at names
    · cases names
    · rename_i tabled
      split at rest
      · cases rest
      · rename_i required
        split at rest
        · cases rest
        · rename_i keyType
          split at rest
          · cases rest
          · rename_i keyInteger
            refine ⟨by simpa [schema] using named, by simpa [schema] using tabled,
              (fieldsWellFormed_of_checkFields names).1, key?_mem declared, by simpa using required,
              by simpa using keyType, fun assigned => ?_, wellFormed_of_checkIndexes rest⟩
            simpa [assigned] using keyInteger

/-- The declared entity type, or the first fault of the declaration. -/
def build (d : Declaration) : Except Error EntityType :=
  match names : d.checkNames with
  | .error fault => .error (.illegal fault)
  | .ok () =>
    match declared : d.key? with
    | .error fault => .error (.illegal fault)
    | .ok key =>
      match rest : checkKey (d.schema key) with
      | .error fault => .error (.illegal fault)
      | .ok () => .ok ⟨d.schema key, wellFormed_of_checks names declared rest⟩

end Declaration

end IdentityMap
