import IdentityMap.Session.Basic
/-!
# Looking up instances

A lookup follows the plan that its policy makes of the cache, and asks the row store once at most.
Lookups that refresh count neither as hits nor as misses.
-/

namespace IdentityMap.Session

variable {σ : Type} [RowStore σ]

/-- Fetch keys into the cache; the instances of the rows that came back. -/
def fetchKeys (m : TableMapping) (keys : List EntityKey) : Work σ (List Handle) := do
  let records ← Work.access (m.fetchKeys keys)
  Work.changeCache m.entityType.name fun c => c.mergeFetched keys records

/-- Load the whole table into the cache. -/
def reload (m : TableMapping) : Work σ (List Handle) := do
  let records ← Work.access m.fetchAll
  Work.changeCache m.entityType.name fun c => c.mergeTable records

/-- The instances of the keys that have one, each once in the order of the keys. -/
def getSome (typeName : String) (keys : List EntityKey) (policy : CachePolicy) :
    Work σ (List Handle) := do
  let (c, m) ← Work.resolve typeName
  let plan := c.planLookup keys policy
  if policy ≠ .forceRefresh then
    Work.countLookups plan.hits.length (plan.fetch.length + plan.absent)
  let fetched ← if plan.fetch = [] then pure [] else fetchKeys m plan.fetch
  let found := fetched ++ plan.hits
  return plan.keys.filterMap fun key => found.find? (·.key = key)

def get (typeName : String) (key : EntityKey) (policy : CachePolicy) :
    Work σ (Option Handle) := do
  let found ← getSome typeName [key] policy
  return found.head?

/-- Every instance of a type. -/
def getAll (typeName : String) (policy : CachePolicy) : Work σ (List Handle) := do
  let (c, m) ← Work.resolve typeName
  match c.planTable policy with
  | .cache =>
    Work.countLookups 1 0
    return c.instances
  | .rowStore =>
    if policy = .cacheFirst then Work.countLookups 0 1
    reload m

/-- How many instances a type has. A table that was not loaded is counted by the row store. -/
def getSize (typeName : String) (policy : CachePolicy) : Work σ Nat := do
  let (c, m) ← Work.resolve typeName
  match c.planTable policy with
  | .cache =>
    Work.countLookups 1 0
    return c.size
  | .rowStore =>
    if policy = .forceRefresh then
      let instances ← reload m
      return instances.length
    else
      Work.countLookups 0 1
      Work.access m.countRows

/-- Read keys anew, whatever is cached. -/
def refreshKeys (typeName : String) (keys : List EntityKey) : Work σ (List Handle) :=
  getSome typeName keys .forceRefresh

/-- Refresh what the cache of a type holds: a synced cache loads its table, another one fetches its
keys. -/
def refreshType (typeName : String) : Work σ Unit := do
  let (c, m) ← Work.resolve typeName
  if c.synced then
    let _ ← reload m
  else if c.keys ≠ [] then
    let _ ← fetchKeys m c.keys

end IdentityMap.Session
