import IdentityMap.Cache.IdentityCache
/-!
# The caches of a store

One identity cache per registered type, by type name.
-/

namespace IdentityMap

abbrev CacheSet := OrderedMap String IdentityCache

namespace CacheSet

/-- Add an empty cache for one more type. -/
def register (caches : CacheSet) (t : EntityType) : Except Error CacheSet :=
  if caches.contains t.name then .error (.duplicateType t.name)
  else .ok (caches.insert t.name (.new t))

def cache (caches : CacheSet) (typeName : String) : Except Error IdentityCache :=
  match caches.get? typeName with
  | some c => .ok c
  | none => .error (.unregisteredType typeName)

/-- The registered types, by name. -/
def entityTypes (caches : CacheSet) : List EntityType := caches.values.map (·.entityType)

/-- What a handle stands for. -/
def read? (caches : CacheSet) (h : Handle) : Option Instance :=
  (caches.get? h.typeName).bind fun c => c.read? h

end CacheSet

end IdentityMap
