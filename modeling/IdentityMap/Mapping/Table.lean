import IdentityMap.Schema.EntityType
/-!
# Table mappings

The columns that store an entity type: one per field, in declared order. The key column is marked;
it is generated when the row store assigns the keys.
-/

namespace IdentityMap

structure Column where
  name : String
  field : String
  type : ScalarType
  nullable : Bool
  isKey : Bool
  generated : Bool
deriving DecidableEq, Repr

/-- The column that stores a field of the type. -/
def EntityType.columnOf (t : EntityType) (f : Field) : Column :=
  let isKey := f.name = t.key.name
  { name := f.column, field := f.name, type := f.type, nullable := f.nullable, isKey,
    generated := isKey && t.assignment = .backend }

/-- The table of an entity type. -/
structure TableMapping where
  entityType : EntityType
deriving DecidableEq

namespace TableMapping

def table (m : TableMapping) : String := m.entityType.table

/-- All columns, in the order of the fields. -/
def columns (m : TableMapping) : List Column := m.entityType.fields.map m.entityType.columnOf

def keyColumn (m : TableMapping) : Column := m.entityType.columnOf m.entityType.key

/-- The columns besides the key's. -/
def valueColumns (m : TableMapping) : List Column := m.columns.filter fun c => !c.isKey

/-- The columns that an insert writes: all but a generated key. -/
def insertColumns (m : TableMapping) : List Column := m.columns.filter fun c => !c.generated

def columnFor? (m : TableMapping) (field : String) : Option Column :=
  m.columns.find? fun c => c.field = field

end TableMapping

end IdentityMap
