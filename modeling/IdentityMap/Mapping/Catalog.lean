import IdentityMap.Mapping.Table
/-!
# The catalog

The table mappings of the registered types, by type name. A name is mapped once.
-/

namespace IdentityMap

abbrev Catalog := OrderedMap String TableMapping

namespace Catalog

/-- Map the tables of one more type. -/
def register (catalog : Catalog) (t : EntityType) : Except Error Catalog :=
  if catalog.contains t.name then .error (.duplicateType t.name)
  else .ok (catalog.insert t.name ⟨t⟩)

def mapping (catalog : Catalog) (typeName : String) : Except Error TableMapping :=
  match catalog.get? typeName with
  | some m => .ok m
  | none => .error (.unmappedType typeName)

def columns (catalog : Catalog) (typeName : String) : Except Error (List Column) :=
  (catalog.mapping typeName).map TableMapping.columns

def keyColumn (catalog : Catalog) (typeName : String) : Except Error Column :=
  (catalog.mapping typeName).map TableMapping.keyColumn

end Catalog

end IdentityMap
