import IdentityMap.Schema.EntityType
/-!
# Drafts

Field values on their way into a store: either a new instance, or changes to the instance of a key.
-/

namespace IdentityMap

inductive Intent
  | create
  /-- Overlay the values of the instance with this key. -/
  | modify (key : EntityKey)
deriving DecidableEq

structure Draft where
  entityType : EntityType
  intent : Intent := .create
  values : Record := .empty
deriving DecidableEq

namespace Draft

def set (d : Draft) (field : String) (v : Value) : Draft :=
  { d with values := d.values.insert field v }

/-- The key that the draft is about, where it is known before the draft is persisted. -/
def key? (d : Draft) : Option EntityKey :=
  match d.intent with
  | .create => d.entityType.keyOf? d.values
  | .modify key => some key

end Draft

end IdentityMap
