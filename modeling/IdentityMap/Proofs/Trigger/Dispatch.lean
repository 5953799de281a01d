import IdentityMap.Proofs.Store.Outcomes
import IdentityMap.Proofs.Trigger.Registrations
/-!
# Which triggers an event is told to

A journal shows every call of a trigger together with its end. The host keeps it, and it changes
nothing that the host does (`Event.callAll_journal`). In the journal an event goes to the triggers
that are registered for every event and then to those of its type, once to each, whatever the calls
come to (`Event.map_calls`). The report counts these calls and lists the failures of those that have
failed (`Event.callAll_failures`). Together with the registrations over time this says what a
dispatcher does (`Dispatcher.sets_delivered`).
-/

namespace IdentityMap

variable {τ : Type} [TriggerHost τ]

/-- A call of a trigger, and how it has ended. -/
structure Invocation where
  trigger : Trigger
  event : Event
  outcome : TriggerOutcome
deriving DecidableEq

/-- What is reported of the call, if it has failed. -/
def Invocation.failure? (call : Invocation) : Option Error :=
  call.outcome.reason?.map fun reason =>
    .triggerFailed call.trigger.name call.event.kind call.event.typeName call.event.key.display
      reason

/-- A host together with the calls of its triggers, the first one first. Other than with `Recorded`,
the ends of the calls are seen as well. -/
structure Journal (τ : Type) where
  host : τ
  calls : List Invocation := []

instance : TriggerHost (Journal τ) where
  react t e journal :=
    let (reaction, host) := TriggerHost.react t e journal.host
    (reaction, ⟨host, journal.calls ++ [⟨t, e, reaction.outcome⟩]⟩)

theorem TriggerHost.Mute.journal (mute : TriggerHost.Mute τ) : TriggerHost.Mute (Journal τ) :=
  fun t e journal => mute t e journal.host

namespace Event

/-- The calls of some triggers, one after the other. -/
def calls (e : Event) : List Trigger → τ → List Invocation
  | [], _ => []
  | t :: rest, host =>
    let (reaction, host) := TriggerHost.react t e host
    ⟨t, e, reaction.outcome⟩ :: e.calls rest host

/-- Keeping a journal makes no difference to a host and to what comes of the calls. -/
theorem callAll_journal (e : Event) (triggers : List Trigger) (journal : Journal τ) :
    e.callAll triggers journal =
      ((e.callAll triggers journal.host).1, (e.callAll triggers journal.host).2.1,
        ⟨(e.callAll triggers journal.host).2.2,
          journal.calls ++ e.calls triggers journal.host⟩) := by
  induction triggers generalizing journal with
  | nil => simp [callAll, calls]
  | cons t rest ih =>
    have later := ih (TriggerHost.react t e journal).2
    simp only [callAll, calls, later]
    simp [TriggerHost.react]

theorem map_calls (e : Event) (triggers : List Trigger) (host : τ) :
    (e.calls triggers host).map (fun call => (call.trigger, call.event))
      = triggers.map (·, e) := by
  induction triggers generalizing host with
  | nil => rfl
  | cons t rest ih => exact congrArg ((t, e) :: ·) (ih _)

theorem length_calls (e : Event) (triggers : List Trigger) (host : τ) :
    (e.calls triggers host).length = triggers.length := by
  have pairs := congrArg List.length (e.map_calls triggers host)
  rwa [List.length_map, List.length_map] at pairs

/-- The report lists what is to report of the calls. -/
theorem callAll_failures (e : Event) (triggers : List Trigger) (host : τ) :
    (e.callAll triggers host).1.failures
      = (e.calls triggers host).filterMap Invocation.failure? := by
  induction triggers generalizing host with
  | nil => rfl
  | cons t rest ih =>
    simp only [callAll, calls, ih, List.filterMap_cons]
    cases failed : (TriggerHost.react t e host).1.outcome.reason? with
    | none => simp [Invocation.failure?, failed]
    | some reason => simp [Invocation.failure?, failed, Event.failure]

/-- Triggers that ask for nothing. -/
theorem callAll_mute (mute : TriggerHost.Mute τ) (e : Event) (triggers : List Trigger) (host : τ) :
    (e.callAll triggers host).2.1 = [] := by
  induction triggers generalizing host with
  | nil => rfl
  | cons t rest ih => exact List.append_eq_nil_iff.2 ⟨mute t e host, ih _⟩

end Event

namespace Dispatcher

/-- Firing the event has come to these calls, one for each trigger that sees it. -/
structure Delivers (d : Dispatcher) (e : Event) (journal : Journal τ) (calls : List Invocation) :
    Prop where
  appended : (d.fire e journal).2.2.calls = journal.calls ++ calls
  /-- The triggers for every event are first, then those for the events of the type. -/
  triggers : calls.map (fun call => (call.trigger, call.event))
    = (d.triggersIn .every ++ d.triggersIn (.ofType e.typeName)).map (·, e)
  fired : (d.fire e journal).1.fired = calls.length
  failures : (d.fire e journal).1.failures = calls.filterMap Invocation.failure?

theorem fire_journal (d : Dispatcher) (e : Event) (journal : Journal τ) :
    (d.fire e journal).1 = (d.fire e journal.host).1 ∧
      (d.fire e journal).2.2.host = (d.fire e journal.host).2.2 ∧
      ∃ calls, d.Delivers e journal calls := by
  have same := e.callAll_journal (d.targets e.typeName) journal
  have report : (d.fire e journal).1 = (d.fire e journal.host).1 := congrArg (·.1) same
  refine ⟨report, congrArg (·.2.2.host) same, e.calls (d.targets e.typeName) journal.host,
    congrArg (·.2.2.calls) same, e.map_calls _ _, ?fired, ?failures⟩
  case fired => rw [fire, Event.callAll_fired, Event.length_calls]
  case failures =>
    rw [report]
    exact e.callAll_failures _ _

/-- Triggers that ask for no registrations leave them as they are. -/
theorem dispatch_mute (mute : TriggerHost.Mute τ) (d : Dispatcher) (e : Event) (host : τ) :
    (d.dispatch e host).2.1 = d := by
  show (d.fire e host).2.1.foldl register d = d
  rw [fire, e.callAll_mute mute]
  rfl

/-- **A dispatcher keeps a set of triggers for each scope and calls all of them.** Take any calls
that register and remove triggers. Each scope lists the registrations that stand there, in their
order, and no trigger twice. No type is known without triggers. A registration of a type without a
name, or of a trigger without one, is refused and changes nothing; another one answers whether the
trigger is new to the scope, and a removal whether it was there. The size is the sum over the
scopes. A type has triggers if and only if one of its events calls some.

An event calls the triggers for every event and then those of its type, in their order, once for
each registration. The report counts these calls and lists a failure for each that has failed or
broken off, in the order of the calls. The journal that shows this makes no difference, and triggers
that ask for no registrations leave the dispatcher as it is. -/
theorem sets_delivered (edits : List Edit) :
    let d := after edits
    (∀ scope, Lists scope edits (d.triggersIn scope) ∧
      ((d.triggersIn scope).map (·.id)).Nodup) ∧
    (∀ typeName, d.typed.get? typeName ≠ some []) ∧
    (∀ scope t,
      (∀ e, scope.refusal? t = some e → d.edit (.add scope t) = (.error e, d)) ∧
      (scope.refusal? t = none →
        (d.edit (.add scope t)).1 = .ok (decide ¬∃ u ∈ d.triggersIn scope, u.id = t.id)) ∧
      (d.edit (.drop scope t)).1 = .ok (decide (∃ u ∈ d.triggersIn scope, u.id = t.id))) ∧
    (∃ types : Finset String, (∀ typeName, typeName ∈ types ↔ d.forType typeName ≠ []) ∧
      d.size = d.global.length + ∑ typeName ∈ types, (d.forType typeName).length) ∧
    ∀ (e : Event) (journal : Journal τ),
      (d.hasTriggers e.typeName = true ↔ 0 < (d.fire e journal).1.fired) ∧
      (∃ calls, d.Delivers e journal calls) ∧
      (d.fire e journal).1 = (d.fire e journal.host).1 ∧
      (d.fire e journal).2.2.host = (d.fire e journal.host).2.2 ∧
      (TriggerHost.Mute τ → (d.dispatch e journal).2.1 = d) := by
  intro d
  have kept : d.KeepsNoneEmpty := keepsNoneEmpty_after edits
  refine ⟨fun scope => ⟨lists_after edits scope, (lists_after edits scope).nodup⟩, kept,
    fun scope t => ⟨fun e refused => edit_add_refused refused, fun legal => edit_add_fst legal,
      ?dropped⟩,
    kept.size_eq, fun e journal => ?_⟩
  case dropped => simp only [edit_drop.1, ← holds_iff, Bool.decide_eq_true]
  obtain ⟨report, host, delivers⟩ := d.fire_journal e journal
  refine ⟨?_, delivers, report, host, fun mute => dispatch_mute mute.journal d e journal⟩
  rw [kept.hasTriggers_iff, fire, Event.callAll_fired, List.length_pos_iff]

end Dispatcher

namespace Sample

/-- Triggers whose calls end as is fixed for each of them. -/
structure Assorted where
  outcomes : List TriggerOutcome

instance : TriggerHost Assorted where
  react t _ host := ({ outcome := host.outcomes.getD t.id .succeeded }, host)

end Sample

open Sample in
/-- Of three triggers the first breaks off and the second fails. The first has been registered anew
for every event, and so comes after the third. -/
theorem Dispatcher.sets_delivered_assorted :
    let edits : List Edit := [
      .add .every ⟨0, "audit"⟩, .add (.ofType "Gauge") ⟨1, "mirror"⟩, .add .every ⟨2, "count"⟩,
      .add (.ofType "Gauge") ⟨1, "mirror"⟩, .add (.ofType "") ⟨2, "count"⟩,
      .drop .every ⟨0, "audit"⟩, .add .every ⟨0, "audit"⟩,
      .add (.ofType "Meter") ⟨0, "audit"⟩, .drop (.ofType "Meter") ⟨0, "audit"⟩]
    let e : Event := ⟨gauge, .int 1, .created (level 1 5)⟩
    let host : Assorted := ⟨[.brokeOff none, .failed "full"]⟩
    let d := after edits
    TriggerHost.Mute Assorted ∧
      d.triggersIn .every = [⟨2, "count"⟩, ⟨0, "audit"⟩] ∧
      d.triggersIn (.ofType "Gauge") = [⟨1, "mirror"⟩] ∧ d.hasTriggers "Meter" = true ∧
      (d.edit (.add .every ⟨2, "count"⟩)).1 = .ok false ∧
      d.edit (.add (.ofType "Meter") ⟨3, ""⟩) = (.error (.illegal .unnamedTrigger), d) ∧
      (d.fire e (Journal.mk host [])).1 = ⟨3,
        [.triggerFailed "audit" .created "Gauge" "1" "trigger panicked",
          .triggerFailed "mirror" .created "Gauge" "1" "full"]⟩ ∧
      (d.dispatch e (Journal.mk host [])).2.1 = d := by
  intro edits e host d
  have mute : TriggerHost.Mute Assorted := fun _ _ _ => rfl
  obtain ⟨-, -, answers, -, fires⟩ := sets_delivered (τ := Assorted) edits
  obtain ⟨-, ⟨calls, delivers⟩, -, -, unchanged⟩ := fires e (Journal.mk host [])
  have told : calls = [⟨⟨2, "count"⟩, e, .succeeded⟩, ⟨⟨0, "audit"⟩, e, .brokeOff none⟩,
      ⟨⟨1, "mirror"⟩, e, .failed "full"⟩] := by
    have appended := delivers.appended
    rw [List.nil_append] at appended
    rw [← appended]
    decide +kernel
  refine ⟨mute, by decide +kernel, by decide +kernel, by decide +kernel, ?_, ?_, ?_, unchanged mute⟩
  · rw [(answers .every ⟨2, "count"⟩).2.1 (by decide)]
    decide +kernel
  · exact (answers (.ofType "Meter") ⟨3, ""⟩).1 _ rfl
  · have report : (d.fire e (Journal.mk host [])).1
        = ⟨calls.length, calls.filterMap Invocation.failure?⟩ := by
      rw [← delivers.fired, ← delivers.failures]
    rw [report, told]
    decide +kernel

end IdentityMap
