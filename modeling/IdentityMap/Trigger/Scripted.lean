import IdentityMap.Trigger.Dispatcher
/-!
# Scripted triggers

Triggers whose behaviour is fixed beforehand, and which keep what they were told. They go by labels;
a label can be given to another trigger later.
-/

namespace IdentityMap

inductive Behaviour
  | finish (outcome : TriggerOutcome)
  /-- Register the trigger that has the label at that time, for a type or for every event. -/
  | register (label : String) (typeName : Option String)

structure ScriptedTrigger where
  label : String
  behaviour : Behaviour
  /-- The trigger behaves so for events of this kind; others leave it unmoved. -/
  only : Option EventKind

structure ScriptedHost where
  /-- The triggers by number. -/
  triggers : List ScriptedTrigger := []
  /-- Which trigger has which label, the latest first. -/
  labelled : List (String × Trigger) := []
  /-- What the triggers were told, with their labels. -/
  told : List (String × Event) := []

namespace ScriptedHost

/-- Make a trigger and give it its label. -/
def define (host : ScriptedHost) (name : String) (t : ScriptedTrigger) : ScriptedHost :=
  { host with
    triggers := host.triggers ++ [t]
    labelled := (t.label, ⟨host.triggers.length, name⟩) :: host.labelled }

/-- The trigger that has a label now. -/
def trigger? (host : ScriptedHost) (label : String) : Option Trigger := host.labelled.lookup label

def reaction (host : ScriptedHost) (t : ScriptedTrigger) (e : Event) : Reaction :=
  if t.only.all (· = e.kind) then
    match t.behaviour with
    | .finish outcome => { outcome }
    | .register label typeName =>
      let registrations := (host.trigger? label).toList.map fun t =>
        match typeName with
        | some typeName => .forType typeName t
        | none => .global t
      { outcome := .succeeded, registrations }
  else { outcome := .succeeded }

instance : TriggerHost ScriptedHost where
  react t e host :=
    match host.triggers[t.id]? with
    | none => ({ outcome := .succeeded }, host)
    | some code => (host.reaction code e, { host with told := host.told ++ [(code.label, e)] })

end ScriptedHost

end IdentityMap
