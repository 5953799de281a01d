import IdentityMap.Cache.Instance
import IdentityMap.Distinct
/-!
# Identity caches

The canonical instances of one entity type, one per key. Putting a record under a cached key
replaces the record inside the instance; putting it under another key makes a new instance. What
leaves the cache is kept aside unchanged, so every handle can be read for good.

A cache is synced once a full load of the table has confirmed its contents. Only then does an empty
cache mean an empty table.
-/

namespace IdentityMap

/-- What putting a record did to the cache. -/
inductive PutOutcome
  | created
  | updated (previous : Record)
  /-- The instance held the same values before. -/
  | unchanged
deriving DecidableEq

def PutOutcome.isChange : PutOutcome → Bool
  | unchanged => false
  | _ => true

structure IdentityCache where
  entityType : EntityType
  entries : OrderedMap EntityKey Instance
  /-- The instances that were removed, the last removed first. -/
  retired : List Instance
  /-- How many instances there have been. -/
  issued : Nat
  synced : Bool
deriving DecidableEq

/-- The outcome of bringing a cache in line with a snapshot of the whole table. -/
structure Reconciliation where
  /-- The instance of each record of the snapshot, in its order. -/
  instances : List Handle
  outcomes : List PutOutcome
  /-- The instances whose keys the snapshot does not have. -/
  removed : List Handle

namespace IdentityCache

def new (t : EntityType) : IdentityCache := ⟨t, .empty, [], 0, false⟩

def typeName (c : IdentityCache) : String := c.entityType.name

def handleOf (c : IdentityCache) (i : Instance) : Handle := ⟨c.typeName, i.key, i.serial⟩

/-- The cached instance of a key. -/
def get? (c : IdentityCache) (key : EntityKey) : Option Instance := c.entries.get? key

def contains (c : IdentityCache) (key : EntityKey) : Bool := c.entries.contains key

def keys (c : IdentityCache) : List EntityKey := c.entries.keys

def size (c : IdentityCache) : Nat := c.entries.size

/-- The cached instances, by key. -/
def instances (c : IdentityCache) : List Handle := c.entries.values.map c.handleOf

/-- What a handle stands for, cached or not. -/
def read? (c : IdentityCache) (h : Handle) : Option Instance :=
  match c.get? h.key with
  | some i => if i.serial = h.serial then some i else c.retired.find? (·.serial = h.serial)
  | none => c.retired.find? (·.serial = h.serial)

def markSynced (c : IdentityCache) (synced : Bool) : IdentityCache := { c with synced }

/-! ### Putting records -/

/-- The key of a record, which it must have. -/
def requireKey (c : IdentityCache) (r : Record) : Except Error EntityKey :=
  match c.entityType.keyOf? r with
  | some key => .ok key
  | none => .error (.illegal (.noKeyValue c.typeName c.entityType.key.name))

/-- Each record with its key; the first record without one fails them all. -/
def keyed (c : IdentityCache) : List Record → Except Error (List (EntityKey × Record))
  | [] => .ok []
  | r :: rest =>
    match c.requireKey r with
    | .error e => .error e
    | .ok key => (c.keyed rest).map ((key, r) :: ·)

def putKeyed (c : IdentityCache) (key : EntityKey) (r : Record) :
    (Handle × PutOutcome) × IdentityCache :=
  match c.get? key with
  | some i =>
    let outcome := if Record.same r i.record then .unchanged else .updated i.record
    ((c.handleOf i, outcome), { c with entries := c.entries.insert key (i.replace r) })
  | none =>
    let i : Instance := ⟨c.issued, key, r, 0⟩
    ((c.handleOf i, .created),
      { c with entries := c.entries.insert key i, issued := c.issued + 1 })

def putAllKeyed : List (EntityKey × Record) → IdentityCache →
    List (Handle × PutOutcome) × IdentityCache
  | [], c => ([], c)
  | (key, r) :: rest, c =>
    let (merged, c) := c.putKeyed key r
    let (others, c) := putAllKeyed rest c
    (merged :: others, c)

def put (c : IdentityCache) (r : Record) :
    Except Error ((Handle × PutOutcome) × IdentityCache) :=
  (c.requireKey r).map fun key => c.putKeyed key r

/-- Put the records in order, if all of them have keys. -/
def putAll (c : IdentityCache) (records : List Record) :
    Except Error (List (Handle × PutOutcome) × IdentityCache) :=
  (c.keyed records).map fun pairs => putAllKeyed pairs c

/-! ### Removing -/

def remove (c : IdentityCache) (key : EntityKey) : Option Handle × IdentityCache :=
  match c.get? key with
  | some i =>
    (some (c.handleOf i), { c with entries := c.entries.erase key, retired := i :: c.retired })
  | none => (none, c)

/-- Remove the keys in order; the answer lists the instances that were cached. -/
def removeAll : List EntityKey → IdentityCache → List Handle × IdentityCache
  | [], c => ([], c)
  | key :: rest, c =>
    let (removed, c) := c.remove key
    let (others, c) := removeAll rest c
    (removed.toList ++ others, c)

/-- Remove every instance, by key. -/
def clear (c : IdentityCache) : List Handle × IdentityCache := removeAll c.keys c

/-! ### Whole lists of keys -/

/-- The instances of the cached keys and the keys that are not cached, each once in first-seen
order. -/
def partition (c : IdentityCache) (keys : List EntityKey) : List Handle × List EntityKey :=
  let keys := distinct keys
  (keys.filterMap fun key => (c.get? key).map c.handleOf, keys.filter fun key => !c.contains key)

/-- Bring the cache in line with the records of the whole table: keys that have no record leave the
cache, then every record is put. Without a key on every record nothing happens. -/
def reconcile (c : IdentityCache) (records : List Record) :
    Except Error (Reconciliation × IdentityCache) :=
  (c.keyed records).map fun pairs =>
    let live := pairs.map (·.1)
    let (removed, c) := removeAll (c.keys.filter (· ∉ live)) c
    let (merged, c) := putAllKeyed pairs c
    (⟨merged.map (·.1), merged.map (·.2), removed⟩, c.markSynced true)

end IdentityCache

end IdentityMap
