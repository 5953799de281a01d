import IdentityMap.Cache.CacheSet
import IdentityMap.Cache.Merging
import IdentityMap.Gateway
import IdentityMap.Mapping.Catalog
import IdentityMap.Settings.Basic
/-!
# Sessions

A session holds the caches of the registered types in front of a row store. `Work` on a session goes
in a fixed order: the row store is called first, then the caches change, then the events of the
change are put into the outbox, for triggers to be told of later. So work that fails in the row
store has changed no cache. A `Work` keeps the session on both exits.
-/

namespace IdentityMap

structure Session (σ : Type) where
  settings : Settings
  gateway : Gateway σ
  catalog : Catalog := .empty
  caches : CacheSet := .empty
  /-- The last key that was handed out, by type name. A type is missing before its first key. -/
  sequences : OrderedMap String Int64 := .empty
  /-- Lookups that a cache served: one for each key, and one for each whole table. -/
  hits : Nat := 0
  /-- Lookups that no cache could serve. -/
  misses : Nat := 0
  /-- What happened since triggers were last told, in order. -/
  outbox : List Event := []

/-- An operation on a session that may fail. -/
abbrev Work (σ α : Type) := ExceptT Error (StateM (Session σ)) α

namespace Work

variable {σ α : Type}

def ofExcept (outcome : Except Error α) : Work σ α := fun s => (outcome, s)

/-- Use the row store. -/
def access (a : Access σ α) : Work σ α := fun s =>
  let (outcome, gateway) := a s.gateway
  (outcome, { s with gateway })

def countLookups (hits misses : Nat) : Work σ Unit := fun s =>
  (.ok (), { s with hits := s.hits + hits, misses := s.misses + misses })

/-- The cache and the table of a registered type. -/
def resolve (typeName : String) : Work σ (IdentityCache × TableMapping) := fun s =>
  match s.caches.cache typeName with
  | .error e => (.error e, s)
  | .ok c => ((s.catalog.mapping typeName).map fun m => (c, m), s)

/-- Change the cache of a type and take note of the events; a change that fails changes nothing. -/
def changeCache (typeName : String)
    (change : IdentityCache → Except Error ((α × List Event) × IdentityCache)) : Work σ α :=
  fun s =>
    match (s.caches.cache typeName).bind change with
    | .error e => (.error e, s)
    | .ok ((a, events), c) =>
      (.ok a, { s with caches := s.caches.insert typeName c, outbox := s.outbox ++ events })

end Work

namespace Session

variable {σ : Type}

/-- Give a type its table and its cache. -/
def enroll (t : EntityType) : Work σ Unit := fun s =>
  match s.catalog.register t, s.caches.register t with
  | .error e, _ | .ok _, .error e => (.error e, s)
  | .ok catalog, .ok caches => (.ok (), { s with catalog, caches })

variable [RowStore σ]

/-- Register a type. Where the settings ask for tables, its table is created first. -/
def register (t : EntityType) : Work σ Unit := do
  let s ← MonadState.get
  if s.caches.contains t.name then throw (.duplicateType t.name)
  if s.settings.createTables then Work.access (TableMapping.createSchema ⟨t⟩)
  enroll t

end Session

end IdentityMap
