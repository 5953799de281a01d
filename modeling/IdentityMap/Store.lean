import IdentityMap.Session.Delete
import IdentityMap.Session.Lookup
import IdentityMap.Session.Persist
import IdentityMap.Trigger.Dispatcher
/-!
# Stores

A store is a session with triggers on it. Every operation does its work on the session and then
tells the triggers of the events, one after the other. A trigger that fails undoes nothing: its
failure is kept for whoever asks. An `Action` keeps the store on both exits.
-/

namespace IdentityMap

structure Store (σ τ : Type) where
  session : Session σ
  dispatcher : Dispatcher := {}
  host : τ
  /-- The trigger failures that nobody has taken yet, oldest first. -/
  failures : List Error := []
  /-- How many times triggers were called. -/
  fired : Nat := 0
  /-- How many of these calls failed. -/
  failed : Nat := 0

/-- An operation on a store that may fail. -/
abbrev Action (σ τ α : Type) := ExceptT Error (StateM (Store σ τ)) α

/-- The counters of a store. -/
structure StoreStats where
  hits : Nat
  misses : Nat
  roundTrips : Nat
  fired : Nat
  failed : Nat
deriving DecidableEq, Repr

namespace Store

variable {σ τ α : Type}

/-- A store with a dialect of its own, whatever the settings say. -/
def openWith (dialect : Sql.Dialect) (settings : Settings) (rows : σ) (host : τ) :
    Except Error (Store σ τ) :=
  settings.validate.map fun _ => { session := { settings, gateway := { dialect, rows } }, host }

/-- A store with the dialect of its settings. -/
def create (settings : Settings) (rows : σ) (host : τ) : Except Error (Store σ τ) :=
  openWith settings.dialect.dialect settings rows host

/-- A registration that a trigger asks for. Triggers for a type need the type to be registered. -/
def register (s : Store σ τ) (d : Dispatcher) : Registration → Dispatcher
  | .global t => d.register (.global t)
  | .forType typeName t =>
    if s.session.caches.contains typeName then d.register (.forType typeName t) else d

/-- Tell the triggers of one event. -/
def tell [TriggerHost τ] (s : Store σ τ) (e : Event) : Store σ τ :=
  let (report, registrations, host) := s.dispatcher.fire e s.host
  { s with
    host
    dispatcher := registrations.foldl s.register s.dispatcher
    failures := s.failures ++ report.failures
    fired := s.fired + report.fired
    failed := s.failed + report.failures.length }

/-- Tell the triggers of everything in the outbox. -/
def deliver [TriggerHost τ] (s : Store σ τ) : Store σ τ :=
  s.session.outbox.foldl tell { s with session := { s.session with outbox := [] } }

/-- Do work on the session and tell the triggers. -/
def perform [TriggerHost τ] (work : Work σ α) : Action σ τ α := fun s =>
  let (outcome, session) := work s.session
  (outcome, { s with session }.deliver)

/-- The registered types, by name. -/
def entityTypes (s : Store σ τ) : List EntityType := s.session.caches.entityTypes

def cache (s : Store σ τ) (typeName : String) : Except Error IdentityCache :=
  s.session.caches.cache typeName

def defaultPolicy (s : Store σ τ) : CachePolicy := s.session.settings.policy

/-- What a handle stands for. -/
def read? (s : Store σ τ) (h : Handle) : Option Instance := s.session.caches.read? h

def stats (s : Store σ τ) : StoreStats :=
  ⟨s.session.hits, s.session.misses, s.session.gateway.roundTrips, s.fired, s.failed⟩

/-! ### Triggers -/

/-- Hand over the trigger failures that were kept. -/
def takeFailures (s : Store σ τ) : List Error × Store σ τ := (s.failures, { s with failures := [] })

def addGlobalTrigger (t : Trigger) : Action σ τ Bool := fun s =>
  match s.dispatcher.addGlobal t with
  | .error e => (.error e, s)
  | .ok (isNew, dispatcher) => (.ok isNew, { s with dispatcher })

/-- Register a trigger for the events of a registered type. -/
def addTrigger (typeName : String) (t : Trigger) : Action σ τ Bool := fun s =>
  match (s.cache typeName).bind fun _ => s.dispatcher.addForType typeName t with
  | .error e => (.error e, s)
  | .ok (isNew, dispatcher) => (.ok isNew, { s with dispatcher })

def dropGlobalTrigger (t : Trigger) (s : Store σ τ) : Bool × Store σ τ :=
  let (found, dispatcher) := s.dispatcher.dropGlobal t
  (found, { s with dispatcher })

def dropTrigger (typeName : String) (t : Trigger) (s : Store σ τ) : Bool × Store σ τ :=
  let (found, dispatcher) := s.dispatcher.dropForType typeName t
  (found, { s with dispatcher })

/-! ### Entities -/

variable [RowStore σ] [TriggerHost τ]

def registerType (t : EntityType) : Action σ τ Unit := perform (Session.register t)

def get (typeName : String) (key : EntityKey) (policy : CachePolicy) :
    Action σ τ (Option Handle) := perform (Session.get typeName key policy)

def getSome (typeName : String) (keys : List EntityKey) (policy : CachePolicy) :
    Action σ τ (List Handle) := perform (Session.getSome typeName keys policy)

def getAll (typeName : String) (policy : CachePolicy) : Action σ τ (List Handle) :=
  perform (Session.getAll typeName policy)

def getSize (typeName : String) (policy : CachePolicy) : Action σ τ Nat :=
  perform (Session.getSize typeName policy)

def persist (d : Draft) : Action σ τ Handle := perform (Session.persist d)

def persistAll (drafts : List Draft) : Action σ τ (List Handle) :=
  perform (Session.persistAll drafts)

/-- Delete rows by key; how many there were. -/
def deleteKeys (typeName : String) (keys : List EntityKey) : Action σ τ Nat := do
  let s ← MonadState.get
  perform (Session.deleteKeys (s.dispatcher.hasTriggers typeName) typeName keys)

/-- Delete the row of an instance; `false` if there was none. -/
def delete (h : Handle) : Action σ τ Bool := do
  let deleted ← deleteKeys h.typeName [h.key]
  return 0 < deleted

/-- Delete keys type by type. -/
def deleteGroups : List (String × List Handle) → Action σ τ Nat
  | [] => return 0
  | (typeName, handles) :: rest => do
    let deleted ← deleteKeys typeName (handles.map (·.key))
    let others ← deleteGroups rest
    return deleted + others

/-- Delete the rows of several instances, with one statement for each type. -/
def deleteInstances (handles : List Handle) : Action σ τ Nat :=
  deleteGroups (grouped (·.typeName) handles)

def deleteAll (typeName : String) : Action σ τ Nat := perform (Session.deleteAll typeName)

/-! ### Refreshing -/

def refreshKeys (typeName : String) (keys : List EntityKey) : Action σ τ (List Handle) :=
  perform (Session.refreshKeys typeName keys)

/-- Refresh keys type by type. -/
def refreshGroups : List (String × List Handle) → Action σ τ Unit
  | [] => return ()
  | (typeName, handles) :: rest => do
    let _ ← refreshKeys typeName (handles.map (·.key))
    refreshGroups rest

/-- Read several instances anew, with one query for each type. -/
def refreshInstances (handles : List Handle) : Action σ τ Unit :=
  refreshGroups (grouped (·.typeName) handles)

/-- Refresh the types in order, each of them whatever became of the others; their outcomes. -/
def refreshTypes : List String → Store σ τ → List (Except Error Unit) × Store σ τ
  | [], s => ([], s)
  | typeName :: rest, s =>
    let (outcome, s) := perform (Session.refreshType typeName) s
    let (others, s) := refreshTypes rest s
    (outcome :: others, s)

/-- The first error among some outcomes. -/
def firstError : List (Except Error Unit) → Except Error Unit
  | [] => .ok ()
  | .error e :: _ => .error e
  | .ok () :: rest => firstError rest

/-- Refresh every cache. -/
def refresh : Action σ τ Unit := fun s =>
  let (outcomes, s) := refreshTypes s.session.caches.keys s
  (firstError outcomes, s)

/-- Refresh the caches as tasks of which an executor completes those that `schedule` lists, in its
order. The types are numbered by name from 0. -/
def refreshScheduled (schedule : List Nat) : Action σ τ Unit := fun s =>
  let types := s.session.caches.keys
  let (outcomes, s) := refreshTypes (schedule.filterMap (types[·]?)) s
  let missing := types.length - outcomes.length
  let outcome := (firstError outcomes).bind fun _ =>
    if missing = 0 then .ok ()
    else .error (.backend "refresh" (toString missing ++ " refresh task(s) did not complete"))
  (outcome, s)

end Store

end IdentityMap
