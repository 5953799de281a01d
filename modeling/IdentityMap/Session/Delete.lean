import IdentityMap.Session.Basic
/-!
# Deleting rows

Rows are deleted by key, and their keys leave the cache. An event is reported for every key whose
values are known: they are in the cache, or they were read back for the triggers' sake.
-/

namespace IdentityMap.Session

variable {σ : Type} [RowStore σ]

/-- What is known of a key before its row is deleted. A record that was read back counts more than
a cached one. -/
def lastKnown? (c : IdentityCache) (readBack : List Record) (key : EntityKey) : Option Record :=
  (readBack.reverse.find? fun r => c.entityType.keyOf? r = some key).or
    ((c.get? key).map (·.record))

/-- Delete the rows of some keys, each once; how many rows there were. `observed` says that triggers
wait for the events, so the values of keys that are not cached are read back first. -/
def deleteKeys (observed : Bool) (typeName : String) (keys : List EntityKey) : Work σ Nat := do
  let (c, m) ← Work.resolve typeName
  let keys := distinct keys
  if keys = [] then return 0
  let misses := (c.partition keys).2
  let readBack ← if misses ≠ [] ∧ observed then Work.access (m.fetchKeys misses) else pure []
  let deleted ← Work.access (m.deleteRows keys)
  Work.changeCache typeName fun c' =>
    let events := keys.filterMap fun key =>
      (lastKnown? c readBack key).map fun r => ⟨c.entityType, key, .deleted (some r)⟩
    .ok (((), events), (IdentityCache.removeAll keys c').2)
  return deleted

/-- Delete every row of a type. Its cache is empty and synced afterwards. -/
def deleteAll (typeName : String) : Work σ Nat := do
  let (_, m) ← Work.resolve typeName
  let deleted ← Work.access m.deleteAllRows
  Work.changeCache typeName fun c =>
    let (removed, c) := c.clear
    .ok (((), removed.map c.removalEvent), c.markSynced true)
  return deleted

end IdentityMap.Session
