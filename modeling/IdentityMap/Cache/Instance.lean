import IdentityMap.Schema.EntityType
/-!
# Canonical instances

An instance is the one live representation of a key. Refreshing or changing it replaces its record
and keeps the instance, so whoever holds a handle to it sees the new record. Instances are told
apart by serial number, counted per entity type in the order in which they came into being; a key
that is cached anew after a removal gets a new instance.
-/

namespace IdentityMap

structure Instance where
  serial : Nat
  key : EntityKey
  record : Record
  /-- How often the record was replaced. -/
  revision : Nat
deriving DecidableEq

/-- Stands for one instance for good, also after it has left the cache. -/
structure Handle where
  typeName : String
  key : EntityKey
  serial : Nat
deriving DecidableEq

/-- The same instance with another record. -/
def Instance.replace (i : Instance) (r : Record) : Instance :=
  { i with record := r, revision := i.revision + 1 }

def Instance.diagnostic (i : Instance) (typeName : String) : String :=
  "Instance \x7b entity_type: " ++ Text.quoted typeName ++ ", key: " ++ i.key.diagnostic
    ++ ", revision: " ++ toString i.revision ++ ", record: " ++ Record.diagnostic i.record
    ++ " \x7d"

end IdentityMap
