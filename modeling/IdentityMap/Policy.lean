import IdentityMap.Cache.IdentityCache
/-!
# Lookup policies

A policy says for one lookup how far the cache is trusted. From a policy and a cache follows a plan:
which keys the cache serves and which are fetched, in one call to the row store at most.
-/

namespace IdentityMap

inductive CachePolicy
  /-- Never ask the row store. -/
  | cacheOnly
  /-- Fetch what is not cached. -/
  | cacheFirst
  /-- Fetch everything anew. -/
  | forceRefresh
deriving DecidableEq, Repr

namespace CachePolicy

def mayFetch : CachePolicy → Bool
  | cacheOnly => false
  | _ => true

def name : CachePolicy → String
  | cacheOnly => "cache_only"
  | cacheFirst => "cache_first"
  | forceRefresh => "force_refresh"

/-- The policy with exactly this name. -/
def ofName? : String → Option CachePolicy
  | "cache_only" => some cacheOnly
  | "cache_first" => some cacheFirst
  | "force_refresh" => some forceRefresh
  | _ => none

@[simp] theorem ofName?_name (p : CachePolicy) : ofName? p.name = some p := by
  cases p <;> rfl

/-- The policy that a person means: letter case is passed over, and a hyphen is an underscore. -/
def parse (text : String) : Except Error CachePolicy :=
  let normal := text.toLower.map fun c => if c = '-' then '_' else c
  match ofName? normal with
  | some policy => .ok policy
  | none => .error (.config ("unknown cache policy '" ++ normal ++ "'"))

end CachePolicy

/-- How a lookup of keys is served. -/
structure LookupPlan where
  /-- The requested keys, each once in first-seen order. -/
  keys : List EntityKey
  /-- The instances that the cache serves. -/
  hits : List Handle
  /-- The keys to fetch. -/
  fetch : List EntityKey
  /-- How many keys are neither cached nor fetched. -/
  absent : Nat

/-- Where a lookup of a whole table is served. -/
inductive TableSource
  | cache
  | rowStore
deriving DecidableEq, Repr

namespace IdentityCache

def planLookup (c : IdentityCache) (keys : List EntityKey) (policy : CachePolicy) : LookupPlan :=
  let keys := distinct keys
  let (hits, misses) := c.partition keys
  match policy with
  | .cacheOnly => ⟨keys, hits, [], misses.length⟩
  | .cacheFirst => ⟨keys, hits, misses, 0⟩
  | .forceRefresh => ⟨keys, [], keys, 0⟩

/-- A cache that is not synced knows only the keys that someone asked for, so it does not serve a
whole table unless told to. -/
def planTable (c : IdentityCache) (policy : CachePolicy) : TableSource :=
  match policy with
  | .cacheOnly => .cache
  | .cacheFirst => if c.synced then .cache else .rowStore
  | .forceRefresh => .rowStore

end IdentityCache

end IdentityMap
