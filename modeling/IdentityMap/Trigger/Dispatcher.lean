import IdentityMap.Trigger.Event
/-!
# Triggers

Triggers are registered for every event or for the events of one type. An event goes to the triggers
that are registered when its dispatch begins: the global ones first, then those of its type, each in
the order of registration. A trigger that fails is reported, and the others still run.

The code behind the triggers is a `TriggerHost`. It sees the event, may change its own state, and
answers with an outcome and with registrations that it wants made. It performs no operations on the
store that has called it.
-/

namespace IdentityMap

/-- A handle to a trigger. The number tells triggers apart, whatever they are called. -/
structure Trigger where
  id : Nat
  name : String
deriving DecidableEq, Repr

/-- How one call of a trigger ends. -/
inductive TriggerOutcome
  | succeeded
  | failed (reason : String)
  /-- It broke off, with a text where it left one. -/
  | brokeOff (text : Option String)
deriving DecidableEq, Repr

def TriggerOutcome.reason? : TriggerOutcome → Option String
  | succeeded => none
  | failed reason => some reason
  | brokeOff text => some (text.getD "trigger panicked")

/-- A registration that a trigger asks for while it runs. -/
inductive Registration
  | global (trigger : Trigger)
  | forType (typeName : String) (trigger : Trigger)
deriving DecidableEq, Repr

structure Reaction where
  outcome : TriggerOutcome
  registrations : List Registration := []
deriving DecidableEq, Repr

class TriggerHost (τ : Type) where
  react : Trigger → Event → τ → Reaction × τ

/-- What came of dispatching an event. -/
structure DispatchReport where
  fired : Nat := 0
  failures : List Error := []
deriving DecidableEq

namespace DispatchReport

def isClean (r : DispatchReport) : Bool := r.failures.isEmpty

/-- Both reports in one. -/
def absorb (r s : DispatchReport) : DispatchReport :=
  ⟨r.fired + s.fired, r.failures ++ s.failures⟩

end DispatchReport

/-- The triggers in order of registration, globally and by type name. -/
structure Dispatcher where
  global : List Trigger := []
  typed : OrderedMap String (List Trigger) := .empty
deriving DecidableEq

namespace Dispatcher

def holds (triggers : List Trigger) (t : Trigger) : Bool := triggers.any (·.id = t.id)

def without (triggers : List Trigger) (t : Trigger) : List Trigger :=
  triggers.filter fun u => u.id ≠ t.id

def forType (d : Dispatcher) (typeName : String) : List Trigger :=
  (d.typed.get? typeName).getD []

/-- Register for every event; `false` if the trigger is registered so already. -/
def addGlobal (d : Dispatcher) (t : Trigger) : Except Error (Bool × Dispatcher) :=
  if t.name = "" then .error (.illegal .unnamedTrigger)
  else if holds d.global t then .ok (false, d)
  else .ok (true, { d with global := d.global ++ [t] })

/-- Register for the events of one type; `false` if the trigger is registered so already. -/
def addForType (d : Dispatcher) (typeName : String) (t : Trigger) :
    Except Error (Bool × Dispatcher) :=
  if typeName = "" then .error (.illegal .unnamedType)
  else if t.name = "" then .error (.illegal .unnamedTrigger)
  else if holds (d.forType typeName) t then .ok (false, d)
  else .ok (true, { d with typed := d.typed.insert typeName (d.forType typeName ++ [t]) })

/-- Remove a global registration; `false` if there is none. -/
def dropGlobal (d : Dispatcher) (t : Trigger) : Bool × Dispatcher :=
  (holds d.global t, { d with global := without d.global t })

/-- Remove a registration for a type; `false` if there is none. A type without triggers is
forgotten. -/
def dropForType (d : Dispatcher) (typeName : String) (t : Trigger) : Bool × Dispatcher :=
  match d.typed.get? typeName with
  | none => (false, d)
  | some triggers =>
    let rest := without triggers t
    (holds triggers t,
      { d with
        typed := if rest = [] then d.typed.erase typeName else d.typed.insert typeName rest })

/-- Some trigger sees the events of the type. -/
def hasTriggers (d : Dispatcher) (typeName : String) : Bool :=
  !d.global.isEmpty || d.typed.contains typeName

/-- The number of registrations. -/
def size (d : Dispatcher) : Nat := d.global.length + d.typed.values.flatten.length

/-- The triggers that see the events of a type, in the order in which they are called. -/
def targets (d : Dispatcher) (typeName : String) : List Trigger :=
  d.global ++ d.forType typeName

/-- Make a registration that a trigger asked for; one that is refused is passed over. -/
def register (d : Dispatcher) : Registration → Dispatcher
  | .global t => match d.addGlobal t with
    | .ok (_, d) => d
    | .error _ => d
  | .forType typeName t => match d.addForType typeName t with
    | .ok (_, d) => d
    | .error _ => d

/-- The dispatcher for diagnosis. -/
def diagnostic (d : Dispatcher) : String :=
  "TriggerDispatcher \x7b global: " ++ toString d.global.length ++ ", typed: "
    ++ toString d.typed.size ++ " \x7d"

end Dispatcher

/-- The failure of one call of a trigger. -/
def Event.failure (e : Event) (t : Trigger) (reason : String) : Error :=
  .triggerFailed t.name e.kind e.typeName e.key.display reason

variable {τ : Type} [TriggerHost τ]

/-- Call triggers one after the other: the report, the registrations that they asked for, and the
host's state afterwards. -/
def Event.callAll (e : Event) : List Trigger → τ → DispatchReport × List Registration × τ
  | [], host => ({}, [], host)
  | t :: rest, host =>
    let (reaction, host) := TriggerHost.react t e host
    let (report, registrations, host) := e.callAll rest host
    let failures := (reaction.outcome.reason?.map (e.failure t)).toList
    (⟨report.fired + 1, failures ++ report.failures⟩,
      reaction.registrations ++ registrations, host)

/-- Dispatch an event to the triggers that are registered now. -/
def Dispatcher.fire (d : Dispatcher) (e : Event) (host : τ) :
    DispatchReport × List Registration × τ :=
  e.callAll (d.targets e.typeName) host

/-- Dispatch an event and make the registrations that its triggers ask for. -/
def Dispatcher.dispatch (d : Dispatcher) (e : Event) (host : τ) :
    DispatchReport × Dispatcher × τ :=
  let (report, registrations, host) := d.fire e host
  (report, registrations.foldl Dispatcher.register d, host)

end IdentityMap
