import IdentityMap.Schema.ScalarType
import IdentityMap.Text.Blank
import IdentityMap.Text.SnakeCase
import IdentityMap.Value.Record
/-!
# Entity types

An entity type declares a name, a table, fields in order, the field that identifies an instance,
how keys are assigned, and secondary indexes. `Schema.WellFormed` says which declarations make
sense; an `EntityType` is one that does. Types go by their names: within a store a name stands for
one type.
-/

namespace IdentityMap

structure Field where
  name : String
  column : String
  type : ScalarType
  nullable : Bool
deriving DecidableEq, Repr

namespace Field

/-- A field that refuses null, stored in the column of its own name in snake case. -/
def required (name : String) (type : ScalarType) : Field :=
  ⟨name, Text.snakeCase name, type, false⟩

def optional (name : String) (type : ScalarType) : Field :=
  ⟨name, Text.snakeCase name, type, true⟩

end Field

/-- Who assigns the key of a new instance. -/
inductive KeyAssignment
  /-- The draft carries it. -/
  | caller
  /-- The row store generates it with the row. -/
  | backend
  /-- The store counts upwards from the largest key in the table. -/
  | sequence
deriving DecidableEq, Repr

namespace KeyAssignment

def name : KeyAssignment → String
  | caller => "caller"
  | backend => "backend"
  | sequence => "sequence"

def ofName? : String → Option KeyAssignment
  | "caller" => some caller
  | "backend" => some backend
  | "sequence" => some sequence
  | _ => none

end KeyAssignment

/-- A secondary index over fields. -/
structure Index where
  name : String
  fields : List String
  unique : Bool := false
  clustered : Bool := false
deriving DecidableEq, Repr

/-- Column names differ for a row store only if they differ beyond the case of ASCII letters. -/
def sameColumn (a b : String) : Prop := a.toLower = b.toLower

instance (a b : String) : Decidable (sameColumn a b) := inferInstanceAs (Decidable (_ = _))

structure Schema where
  name : String
  table : String
  fields : List Field
  key : Field
  assignment : KeyAssignment
  indexes : List Index
deriving DecidableEq, Repr

/-- The index is named and covers declared fields, at least one. -/
structure Index.WellFormed (index : Index) (fields : List Field) : Prop where
  named : index.name ≠ ""
  covers : index.fields ≠ []
  declared : ∀ name ∈ index.fields, ∃ f ∈ fields, f.name = name

/-- No name is empty, and no field or column is declared twice. -/
structure FieldsWellFormed (fields : List Field) : Prop where
  named : ∀ f ∈ fields, f.name ≠ "" ∧ f.column ≠ ""
  names : fields.Pairwise fun f g => f.name ≠ g.name
  columns : fields.Pairwise fun f g => ¬ sameColumn f.column g.column

structure Schema.WellFormed (s : Schema) : Prop where
  named : Text.blank s.name = false
  tabled : Text.blank s.table = false
  fields : FieldsWellFormed s.fields
  keyDeclared : s.key ∈ s.fields
  keyRequired : s.key.nullable = false
  keyType : s.key.type.isKeyType = true
  keyInteger : s.assignment ≠ .caller → s.key.type.isInteger = true
  indexes : ∀ index ∈ s.indexes, index.WellFormed s.fields

structure EntityType extends Schema where
  wellFormed : toSchema.WellFormed
deriving DecidableEq

namespace EntityType

/-- Both stand for the same type. -/
def same (t u : EntityType) : Bool := t.name = u.name

def field? (t : EntityType) (name : String) : Option Field :=
  t.fields.find? fun f => f.name = name

def fieldByColumn? (t : EntityType) (column : String) : Option Field :=
  t.fields.find? fun f => sameColumn f.column column

/-- The fields other than the key, in declared order. -/
def valueFields (t : EntityType) : List Field :=
  t.fields.filter fun f => f.name ≠ t.key.name

/-- The key that a record of the type carries. -/
def keyOf? (t : EntityType) (r : Record) : Option EntityKey :=
  (r.get? t.key.name).bind EntityKey.ofValue?

/-- What is wrong with the record's value for one field. -/
def checkField (t : EntityType) (r : Record) (f : Field) : Except Error Unit :=
  match r.get? f.name with
  | none => if f.nullable then .ok () else .error (.illegal (.missingValue t.name f.name))
  | some v =>
    if v.isNull ∧ f.nullable = false then .error (.illegal (.missingValue t.name f.name))
    else (f.type.decode f.name v).map fun _ => ()

def checkFields (t : EntityType) (r : Record) : List Field → Except Error Unit
  | [] => .ok ()
  | f :: rest =>
    match t.checkField r f with
    | .error e => .error e
    | .ok () => checkFields t r rest

/-- A complete record fits the type: it has no undeclared field, no null where none is allowed, and
only values that their fields can hold. An undeclared field is reported before any other fault. -/
def check (t : EntityType) (r : Record) : Except Error Unit :=
  match r.keys.find? fun name => (t.field? name).isNone with
  | some name => .error (.illegal (.unknownField t.name name))
  | none => t.checkFields r t.fields

end EntityType

end IdentityMap
