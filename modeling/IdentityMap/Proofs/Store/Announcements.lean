import Mathlib.Algebra.GroupWithZero.Nat
import IdentityMap.Proofs.Trigger.Dispatch
/-!
# What a run asks for and tells of

A run is resolved into the requests that its operations make (`Operation.asked`), and these into the
events that triggers are told of, each with the triggers that were registered at that time
(`Store.announced`). What an operation does beside its requests concerns registrations and the
failures that are kept (`Operation.aside_eq`).
-/

namespace IdentityMap

variable {σ τ : Type} [RowStore σ] [TriggerHost τ]

namespace Store

/-! ### Requests that operations make -/

/-- Make requests, whatever becomes of each. -/
def askAll (requests : List Request) (s : Store σ τ) : Store σ τ :=
  requests.foldl (fun s r => (s.ask r).2) s

/-- The first of some requests, up to one that fails. -/
def untilFailure : List Request → Store σ τ → List Request
  | [], _ => []
  | r :: rest, s =>
    match s.ask r with
    | (.error _, _) => [r]
    | (.ok _, later) => r :: untilFailure rest later

theorem untilFailure_error {r : Request} {s t : Store σ τ} {e : Error} (rest : List Request)
    (failed : s.ask r = (.error e, t)) : untilFailure (r :: rest) s = [r] := by
  rw [untilFailure, failed]

theorem untilFailure_ok {r : Request} {s t : Store σ τ} {handles : List Handle}
    (rest : List Request) (answered : s.ask r = (.ok handles, t)) :
    untilFailure (r :: rest) s = r :: untilFailure rest t := by
  rw [untilFailure, answered]

theorem askAll_untilFailure_error {r : Request} {s t : Store σ τ} {e : Error}
    (rest : List Request) (failed : s.ask r = (.error e, t)) :
    s.askAll (untilFailure (r :: rest) s) = t := by
  rw [untilFailure_error rest failed]
  exact congrArg Prod.snd failed

theorem askAll_untilFailure_ok {r : Request} {s t : Store σ τ} {handles : List Handle}
    (rest : List Request) (answered : s.ask r = (.ok handles, t)) :
    s.askAll (untilFailure (r :: rest) s) = t.askAll (untilFailure rest t) := by
  rw [untilFailure_ok rest answered, askAll, List.foldl_cons, answered]
  rfl

theorem deleteGroups_asked (groups : List (String × List Handle)) (s : Store σ τ) :
    (deleteGroups groups s).2 = s.askAll (untilFailure
      (groups.map fun group => .deleteKeys group.1 (group.2.map (·.key))) s) := by
  induction groups generalizing s with
  | nil => rfl
  | cons group rest ih =>
    unfold deleteGroups
    rcases ran : deleteKeys group.1 (group.2.map (·.key)) s with ⟨e | n, t⟩
    · have asked : s.ask (.deleteKeys group.1 (group.2.map (·.key))) = (.error e, t) := by
        simp [ask, ran, Except.map]
      rw [bind_of_error ran, List.map_cons, askAll_untilFailure_error _ asked]
    · have asked : s.ask (.deleteKeys group.1 (group.2.map (·.key))) = (.ok [], t) := by
        simp [ask, ran, Except.map]
      rw [bind_of_ok ran, List.map_cons, askAll_untilFailure_ok _ asked, ← ih t]
      rcases others : deleteGroups rest t with ⟨e | m, u⟩
      · rw [bind_of_error others]
      · rw [bind_of_ok others]
        rfl

theorem refreshGroups_asked (groups : List (String × List Handle)) (s : Store σ τ) :
    (refreshGroups groups s).2 = s.askAll (untilFailure
      (groups.map fun group => .refreshKeys group.1 (group.2.map (·.key))) s) := by
  induction groups generalizing s with
  | nil => rfl
  | cons group rest ih =>
    unfold refreshGroups
    rcases ran : refreshKeys group.1 (group.2.map (·.key)) s with ⟨e | handles, t⟩
    · have asked : s.ask (.refreshKeys group.1 (group.2.map (·.key))) = (.error e, t) := ran
      rw [bind_of_error ran, List.map_cons, askAll_untilFailure_error _ asked]
    · have asked : s.ask (.refreshKeys group.1 (group.2.map (·.key))) = (.ok handles, t) := ran
      rw [bind_of_ok ran, List.map_cons, askAll_untilFailure_ok _ asked]
      exact ih t

theorem refreshTypes_asked (names : List String) (s : Store σ τ) :
    (refreshTypes names s).2 = s.askAll (names.map .refreshType) := by
  induction names generalizing s with
  | nil => rfl
  | cons typeName rest ih =>
    rw [refreshTypes_cons, ih]
    rfl

end Store

namespace Operation

open Store

/-- The requests that an operation makes of a store. -/
def asked (s : Store σ τ) : Operation → List Request
  | request r => [r]
  | delete h => [.deleteKeys h.typeName [h.key]]
  | deleteInstances handles => untilFailure ((grouped (·.typeName) handles).map fun group =>
      .deleteKeys group.1 (group.2.map (·.key))) s
  | refreshInstances handles => untilFailure ((grouped (·.typeName) handles).map fun group =>
      .refreshKeys group.1 (group.2.map (·.key))) s
  | refresh => s.session.caches.keys.map .refreshType
  | refreshScheduled schedule _ =>
    (schedule.filterMap (s.session.caches.keys[·]?)).map .refreshType
  | addGlobalTrigger _ | addTrigger _ _ | dropGlobalTrigger _ | dropTrigger _ _ | takeFailures => []

/-- The failures that an operation hands over. -/
def taken (s : Store σ τ) : Operation → List Error
  | takeFailures => s.takeFailures.1
  | _ => []

/-- What an operation does beside its requests. -/
def aside (s : Store σ τ) : Operation → Store σ τ
  | addGlobalTrigger t => (Store.addGlobalTrigger t s).2
  | addTrigger typeName t => (Store.addTrigger typeName t s).2
  | dropGlobalTrigger t => (Store.dropGlobalTrigger t s).2
  | dropTrigger typeName t => (Store.dropTrigger typeName t s).2
  | takeFailures => s.takeFailures.2
  | _ => s

/-- An operation makes its requests, and then does what it does beside them. -/
theorem run_asked (op : Operation) (s : Store σ τ) :
    (op.run s).2 = op.aside (s.askAll (op.asked s)) := by
  cases op with
  | delete h =>
    show (Store.delete h s).2 = (deleteKeys h.typeName [h.key] s).2
    unfold Store.delete
    rcases ran : deleteKeys h.typeName [h.key] s with ⟨e | n, t⟩
    · rw [bind_of_error ran]
    · rw [bind_of_ok ran]
      rfl
  | deleteInstances handles => exact deleteGroups_asked _ s
  | refreshInstances handles => exact refreshGroups_asked _ s
  | refresh | refreshScheduled _ _ => exact refreshTypes_asked _ s
  | request _ | addGlobalTrigger _ | addTrigger _ _ | dropGlobalTrigger _ | dropTrigger _ _
  | takeFailures => rfl

omit [RowStore σ] [TriggerHost τ] in
/-- Beside its requests an operation changes only which triggers are registered and which failures
are kept: those that it hands over are not. -/
theorem aside_eq (op : Operation) (s : Store σ τ) :
    ∃ dispatcher failures, op.taken s ++ failures = s.failures ∧
      op.aside s = { s with dispatcher, failures } := by
  cases op with
  | addGlobalTrigger t =>
    show ∃ dispatcher failures, [] ++ failures = s.failures ∧
      (Store.addGlobalTrigger t s).2 = { s with dispatcher, failures }
    unfold Store.addGlobalTrigger
    split <;> exact ⟨_, _, rfl, rfl⟩
  | addTrigger typeName t =>
    show ∃ dispatcher failures, [] ++ failures = s.failures ∧
      (Store.addTrigger typeName t s).2 = { s with dispatcher, failures }
    unfold Store.addTrigger
    split <;> exact ⟨_, _, rfl, rfl⟩
  | takeFailures => exact ⟨s.dispatcher, [], List.append_nil _, rfl⟩
  | _ => exact ⟨_, _, rfl, rfl⟩

end Operation

namespace Store

/-! ### Events that triggers are told of -/

/-- Events that are told one after the other, each with the triggers that are registered then. -/
def tellings : List Event → Store σ τ → List (Dispatcher × Event)
  | [], _ => []
  | e :: rest, s => (s.dispatcher, e) :: tellings rest (s.tell e)

/-- The store when a request has been worked on and its events are to be told. -/
def worked (r : Request) (s : Store σ τ) : Store σ τ :=
  { s with session := { (r.run s.dispatcher.hasTriggers s.session).2 with outbox := [] } }

/-- The events that requests make the store tell of. -/
def announcedBy : List Request → Store σ τ → List (Dispatcher × Event)
  | [], _ => []
  | r :: rest, s => tellings (s.dispatched r) (s.worked r) ++ announcedBy rest (s.ask r).2

/-- The events that operations make the store tell of, in their order, each with the triggers that
are registered when it is told. -/
def announced : List Operation → Store σ τ → List (Dispatcher × Event)
  | [], _ => []
  | op :: rest, s => announcedBy (op.asked s) s ++ announced rest (op.run s).2

end Store

end IdentityMap
