import IdentityMap.Schema.EntityType
/-!
# Events

What happened to a canonical instance, with its values around the change.
-/

namespace IdentityMap

inductive Change
  | created (after : Record)
  | updated (before after : Record)
  /-- The values may be unknown. -/
  | deleted (before : Option Record)
deriving DecidableEq

namespace Change

def kind : Change → EventKind
  | created _ => .created
  | updated _ _ => .updated
  | deleted _ => .deleted

def before : Change → Option Record
  | created _ => none
  | updated before _ => some before
  | deleted before => before

def after : Change → Option Record
  | created after => some after
  | updated _ after => some after
  | deleted _ => none

end Change

structure Event where
  entityType : EntityType
  key : EntityKey
  change : Change
deriving DecidableEq

namespace Event

def kind (e : Event) : EventKind := e.change.kind

def typeName (e : Event) : String := e.entityType.name

end Event

end IdentityMap
