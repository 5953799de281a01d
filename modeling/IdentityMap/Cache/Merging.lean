import IdentityMap.Cache.IdentityCache
import IdentityMap.Trigger.Event
/-!
# Merging answers of the row store

What the row store answers is put into the cache, and each merge yields the events that it amounts
to: one for every record that made an instance or changed one, then one for every instance that left
the cache. An event shows an instance as it is after the whole merge.
-/

namespace IdentityMap.IdentityCache

/-- The event that putting a record amounts to, in the cache as it is afterwards. -/
def putEvent? (c : IdentityCache) (h : Handle) (outcome : PutOutcome) : Option Event :=
  match outcome, c.read? h with
  | .created, some i => some ⟨c.entityType, h.key, .created i.record⟩
  | .updated previous, some i => some ⟨c.entityType, h.key, .updated previous i.record⟩
  | _, _ => none

def putEvents (c : IdentityCache) (merged : List (Handle × PutOutcome)) : List Event :=
  merged.filterMap fun m => c.putEvent? m.1 m.2

/-- The event that the removal of an instance amounts to. -/
def removalEvent (c : IdentityCache) (h : Handle) : Event :=
  ⟨c.entityType, h.key, .deleted ((c.read? h).map (·.record))⟩

/-- Put one record. -/
def mergeRecord (c : IdentityCache) (r : Record) :
    Except Error ((Handle × List Event) × IdentityCache) :=
  (c.put r).map fun (merged, c) => ((merged.1, c.putEvents [merged]), c)

/-- Put records, in order. -/
def mergeRecords (c : IdentityCache) (records : List Record) :
    Except Error ((List Handle × List Event) × IdentityCache) :=
  (c.putAll records).map fun (merged, c) => ((merged.map (·.1), c.putEvents merged), c)

/-- Put a record that changes `base`. The event tells of the change to `base`, whatever was cached,
and there is none if nothing changed. -/
def mergeChange (c : IdentityCache) (base r : Record) :
    Except Error ((Handle × List Event) × IdentityCache) :=
  (c.put r).map fun ((h, _), c) =>
    let events := if Record.same r base then [] else [⟨c.entityType, h.key, .updated base r⟩]
    ((h, events), c)

/-- Let a key go whose row is gone. -/
def evict (c : IdentityCache) (key : EntityKey) : (Unit × List Event) × IdentityCache :=
  let (removed, c) := c.remove key
  (((), removed.toList.map c.removalEvent), c)

/-- Put the records that a query for `keys` brought. A key that it did not bring has no row any
more, so it leaves the cache. -/
def mergeFetched (c : IdentityCache) (keys : List EntityKey) (records : List Record) :
    Except Error ((List Handle × List Event) × IdentityCache) :=
  (c.putAll records).map fun (merged, c) =>
    let returned := merged.map (·.1.key)
    let (removed, c) := removeAll (keys.filter (· ∉ returned)) c
    ((merged.map (·.1), c.putEvents merged ++ removed.map c.removalEvent), c)

/-- Put the records of the whole table. -/
def mergeTable (c : IdentityCache) (records : List Record) :
    Except Error ((List Handle × List Event) × IdentityCache) :=
  (c.reconcile records).map fun (merge, c) =>
    ((merge.instances,
      c.putEvents (merge.instances.zip merge.outcomes) ++ merge.removed.map c.removalEvent), c)

end IdentityMap.IdentityCache
