import IdentityMap.Proofs.Store.Announcements
/-!
# Who is told of an event

A trigger may ask for registrations while it runs, so the triggers that stand for an event need not
be those that stood when its operation began. But telling triggers takes no registration away
(`Dispatcher.Grows`): whoever was registered before the first of some events is told of all of them,
in their order, and of each once for every registration (`Store.ask_told`).

What is registered is always the work of calls that register and remove triggers
(`Store.Reachable.made`), so what holds of such calls holds in every state that a store gets into.
-/

namespace IdentityMap

variable {σ τ : Type} [TriggerHost τ]

namespace Dispatcher

variable {d d' d'' : Dispatcher}

/-! ### Registrations that are made -/

/-- The dispatcher with some more registrations, as far as they are admitted. -/
inductive Grows : Dispatcher → Dispatcher → Prop
  | refl (d : Dispatcher) : Grows d d
  | add {d d' : Dispatcher} (scope : Scope) (t : Trigger)
    (later : Grows (d.edit (.add scope t)).2 d') : Grows d d'

theorem Grows.trans (first : Grows d d') (later : Grows d' d'') : Grows d d'' := by
  induction first with
  | refl _ => exact later
  | add scope t _ ih => exact .add scope t (ih later)

/-- A registration takes no other one away. -/
theorem triggersIn_add (d : Dispatcher) (scope : Scope) (t : Trigger) (other : Scope) :
    d.triggersIn other <+: (d.edit (.add scope t)).2.triggersIn other := by
  cases legal : scope.refusal? t with
  | some e => rw [edit_add_refused legal]
  | none =>
    rw [edit_add legal]
    split
    · exact List.prefix_rfl
    · rw [triggersIn_put]
      split
      · rename_i same
        exact same ▸ List.prefix_append _ _
      · exact List.prefix_rfl

theorem Grows.triggersIn (grows : Grows d d') (scope : Scope) :
    d.triggersIn scope <+: d'.triggersIn scope := by
  induction grows with
  | refl _ => exact List.prefix_rfl
  | add scope' t _ ih => exact (triggersIn_add _ scope' t scope).trans ih

theorem grows_register (d : Dispatcher) (r : Registration) : Grows d (d.register r) := by
  cases r with
  | global t =>
    have same : d.register (.global t) = (d.edit (.add .every t)).2 := by
      show _ = (d.settled (d.addGlobal t)).2
      simp only [register, settled]
      cases d.addGlobal t <;> rfl
    exact same ▸ .add .every t (.refl _)
  | forType typeName t =>
    have same : d.register (.forType typeName t) = (d.edit (.add (.ofType typeName) t)).2 := by
      show _ = (d.settled (d.addForType typeName t)).2
      simp only [register, settled]
      cases d.addForType typeName t <;> rfl
    exact same ▸ .add (.ofType typeName) t (.refl _)

/-! ### What calls can make of a dispatcher -/

/-- Calls that register and remove triggers have made the dispatcher. -/
def Made (d : Dispatcher) : Prop := ∃ edits, d = after edits

theorem Made.edit (made : d.Made) (e : Edit) : (d.edit e).2.Made := by
  obtain ⟨edits, rfl⟩ := made
  exact ⟨edits ++ [e], (after_concat edits e).symm⟩

theorem Made.grows (made : d.Made) (grows : Grows d d') : d'.Made := by
  induction grows with
  | refl _ => exact made
  | add scope t _ ih => exact ih (made.edit (.add scope t))

theorem Made.nodup (made : d.Made) (scope : Scope) :
    ((d.triggersIn scope).map (·.id)).Nodup := by
  obtain ⟨edits, rfl⟩ := made
  exact (lists_after edits scope).nodup

theorem Made.hasTriggers_iff (made : d.Made) (typeName : String) :
    d.hasTriggers typeName = true ↔ d.targets typeName ≠ [] := by
  obtain ⟨edits, rfl⟩ := made
  exact (keepsNoneEmpty_after edits).hasTriggers_iff typeName

end Dispatcher

namespace Store

open Dispatcher

/-! ### Telling triggers -/

theorem grows_tell (s : Store σ τ) (e : Event) : Grows s.dispatcher (s.tell e).dispatcher := by
  have all (registrations : List Registration) (d : Dispatcher) :
      Grows d (registrations.foldl s.register d) := by
    induction registrations generalizing d with
    | nil => exact .refl d
    | cons r rest ih =>
      have first : Grows d (s.register d r) := by
        cases r with
        | global t => exact grows_register d (.global t)
        | forType typeName t =>
          by_cases known : s.session.caches.contains typeName = true
          · have same : s.register d (.forType typeName t) = d.register (.forType typeName t) :=
              if_pos known
            exact same ▸ grows_register d _
          · have same : s.register d (.forType typeName t) = d := if_neg known
            exact same.symm ▸ .refl d
      exact first.trans (ih _)
  exact all _ _

theorem grows_foldl_tell (events : List Event) (s : Store σ τ) :
    Grows s.dispatcher (events.foldl tell s).dispatcher := by
  induction events generalizing s with
  | nil => exact .refl _
  | cons e rest ih => exact (s.grows_tell e).trans (ih (s.tell e))

theorem map_tellings (events : List Event) (s : Store σ τ) :
    (tellings events s).map (·.2) = events := by
  induction events generalizing s with
  | nil => rfl
  | cons e rest ih => exact congrArg (e :: ·) (ih (s.tell e))

/-- Each event is told to what the events before it have made of the dispatcher. -/
theorem grows_tellings {events : List Event} {s : Store σ τ} {round : Dispatcher × Event}
    (listed : round ∈ tellings events s) : Grows s.dispatcher round.1 := by
  induction events generalizing s with
  | nil => cases listed
  | cons e rest ih =>
    rcases List.mem_cons.1 listed with rfl | later
    · exact .refl _
    · exact (s.grows_tell e).trans (ih later)

/-- Triggers that ask for nothing leave the registrations as they are. -/
theorem tell_mute (mute : TriggerHost.Mute τ) (s : Store σ τ) (e : Event) :
    (s.tell e).dispatcher = s.dispatcher := by
  show (s.dispatcher.fire e s.host).2.1.foldl s.register s.dispatcher = _
  rw [fire, e.callAll_mute mute]
  rfl

theorem tellings_mute (mute : TriggerHost.Mute τ) {events : List Event} {s : Store σ τ}
    {round : Dispatcher × Event} (listed : round ∈ tellings events s) :
    round.1 = s.dispatcher := by
  induction events generalizing s with
  | nil => cases listed
  | cons e rest ih =>
    rcases List.mem_cons.1 listed with rfl | later
    · rfl
    · exact (ih later).trans (s.tell_mute mute e)

/-- The calls that a journal shows of some events. -/
theorem calls_tellings (events : List Event) (s : Store σ (Journal τ)) :
    ∃ calls, (events.foldl tell s).host.calls = s.host.calls ++ calls ∧
      calls.map (fun call => (call.trigger, call.event)) = (tellings events s).flatMap fun round =>
        (round.1.triggersIn .every ++ round.1.triggersIn (.ofType round.2.typeName)).map
          (·, round.2) := by
  induction events generalizing s with
  | nil => exact ⟨[], (List.append_nil _).symm, rfl⟩
  | cons e rest ih =>
    obtain ⟨-, -, first, delivers⟩ := s.dispatcher.fire_journal e s.host
    obtain ⟨later, appended, triggers⟩ := ih (s.tell e)
    have told : (s.tell e).host.calls = s.host.calls ++ first := delivers.appended
    refine ⟨first ++ later, ?_, ?_⟩
    · rw [List.foldl_cons, appended, told, List.append_assoc]
    · rw [List.map_append, delivers.triggers, triggers]
      rfl

/-- The triggers were told of some events, one after the other, and of nothing else. In each round
the event goes to all who stood for it at the beginning, before those who have been registered
since, and to nobody twice for the same registration. Nobody is added if triggers ask for nothing. -/
structure Told (s s' : Store σ (Journal τ)) (events : List Event)
    (rounds : List (Dispatcher × Event)) : Prop where
  events : rounds.map (·.2) = events
  calls : ∃ calls, s'.host.calls = s.host.calls ++ calls ∧
    calls.map (fun call => (call.trigger, call.event)) = rounds.flatMap fun round =>
      (round.1.triggersIn .every ++ round.1.triggersIn (.ofType round.2.typeName)).map (·, round.2)
  stands : ∀ round ∈ rounds, ∀ scope, s.dispatcher.triggersIn scope <+: round.1.triggersIn scope
  once : ∀ round ∈ rounds, ∀ scope, ((round.1.triggersIn scope).map (·.id)).Nodup
  fixed : TriggerHost.Mute τ → ∀ round ∈ rounds, round.1 = s.dispatcher

variable [RowStore σ]

theorem ask_told {s : Store σ (Journal τ)} (made : s.dispatcher.Made) (r : Request) :
    ∃ rounds, Told s (s.ask r).2 (s.dispatched r) rounds := by
  have calls := calls_tellings (s.dispatched r) (s.worked r)
  have grows : ∀ round ∈ tellings (s.dispatched r) (s.worked r), Grows s.dispatcher round.1 :=
    fun round listed => grows_tellings (s := s.worked r) listed
  refine ⟨tellings (s.dispatched r) (s.worked r), map_tellings _ _, ?_, ?_, ?_, ?_⟩
  · rw [ask_eq]
    exact calls
  · exact fun round listed => (grows round listed).triggersIn
  · exact fun round listed => (made.grows (grows round listed)).nodup
  · exact fun mute round listed => tellings_mute (s := s.worked r) mute.journal listed

/-! ### States of a store -/

theorem askAll_made {s : Store σ τ} (made : s.dispatcher.Made) (requests : List Request) :
    (s.askAll requests).dispatcher.Made := by
  induction requests generalizing s with
  | nil => exact made
  | cons r rest ih =>
    have grown : Grows s.dispatcher (s.ask r).2.dispatcher := by
      rw [ask_eq]
      exact grows_foldl_tell (s.dispatched r) (s.worked r)
    exact ih (made.grows grown)

omit [RowStore σ] [TriggerHost τ] in
theorem aside_made {s : Store σ τ} (made : s.dispatcher.Made) (op : Operation) :
    (op.aside s).dispatcher.Made := by
  cases op with
  | addGlobalTrigger t =>
    have added : (s.dispatcher.settled (s.dispatcher.addGlobal t)).2.Made :=
      made.edit (.add .every t)
    show (Store.addGlobalTrigger t s).2.dispatcher.Made
    unfold Store.addGlobalTrigger
    cases answer : s.dispatcher.addGlobal t with
    | error e => exact made
    | ok later =>
      rw [answer] at added
      exact added
  | addTrigger typeName t =>
    have added : (s.dispatcher.settled (s.dispatcher.addForType typeName t)).2.Made :=
      made.edit (.add (.ofType typeName) t)
    show (Store.addTrigger typeName t s).2.dispatcher.Made
    unfold Store.addTrigger
    cases s.cache typeName with
    | error e => exact made
    | ok c =>
      cases answer : s.dispatcher.addForType typeName t with
      | error e => exact made
      | ok later =>
        rw [answer] at added
        exact added
  | dropGlobalTrigger t => exact made.edit (.drop .every t)
  | dropTrigger typeName t => exact made.edit (.drop (.ofType typeName) t)
  | _ => exact made

theorem Reachable.made {s : Store σ τ} (reachable : s.Reachable) : s.dispatcher.Made := by
  obtain ⟨dialect, settings, rows, host, opened, ops, ran, rfl⟩ := reachable
  obtain rfl := opened_session ran
  have start : Made {} := ⟨[], rfl⟩
  have after (ops : List Operation) (t : Store σ τ) (made : t.dispatcher.Made) :
      (t.after ops).dispatcher.Made := by
    induction ops generalizing t with
    | nil => exact made
    | cons op rest ih =>
      have ran : (op.run t).2.dispatcher.Made := by
        rw [op.run_asked]
        exact aside_made (askAll_made made _) op
      exact ih _ ran
  exact after ops _ start

end Store

end IdentityMap
