import Mathlib.Algebra.GroupWithZero.Nat
import IdentityMap.Proofs.Store.Outcomes
import IdentityMap.Trigger.Scripted
/-!
# Triggers that keep the types apart

What a store counts of its triggers depends on the order of the events, since a trigger may ask for
registrations and keep a state of its own. It does not depend on the order in which types take their
turns, if the triggers keep the types apart (`TriggerHost.Typewise`): what one does about an event
depends on what it was told of the same type, and it registers triggers for this type only. Then
every type is told its events as if there were no others (`Store.reported_flatMap`).
-/

namespace IdentityMap

variable {σ τ V : Type} [TriggerHost τ]

/-- The triggers keep the types apart. `view` shows of the host what matters for the events of one
type, in the states of the host for which `I` holds. -/
structure TriggerHost.Typewise (view : String → τ → V) (I : τ → Prop) : Prop where
  kept : ∀ t e host, I host → I (react t e host).2
  own : ∀ t e host, I host → ∀ r ∈ (react t e host).1.registrations,
    ∃ u, r = .forType e.typeName u
  alike : ∀ t e host host', I host → I host' → view e.typeName host = view e.typeName host' →
    (react t e host).1.registrations = (react t e host').1.registrations ∧
      view e.typeName (react t e host).2 = view e.typeName (react t e host').2
  apart : ∀ t e host n, I host → n ≠ e.typeName → view n (react t e host).2 = view n host

/-- Whether a trigger fails at an event depends on what is shown of the host for its type. -/
def TriggerHost.FailsTypewise (view : String → τ → V) (I : τ → Prop) : Prop :=
  ∀ t e host host', I host → I host' → view e.typeName host = view e.typeName host' →
    (react t e host).1.outcome.reason?.isSome = (react t e host').1.outcome.reason?.isSome

/-- What is counted of the calls for an event depends on what is shown of the host for its type. -/
def TriggerHost.CountsTypewise (view : String → τ → V) (I : τ → Prop)
    (count : DispatchReport → Nat) : Prop :=
  ∀ (e : Event) (triggers : List Trigger) (host host' : τ), I host → I host' →
    view e.typeName host = view e.typeName host' →
      count (e.callAll triggers host).1 = count (e.callAll triggers host').1

/-- Triggers that never ask for registrations keep the types apart, whatever they keep in mind. -/
theorem TriggerHost.Mute.typewise (mute : TriggerHost.Mute τ) :
    TriggerHost.Typewise (fun _ (_ : τ) => ()) fun _ => True where
  kept _ _ _ _ := trivial
  own t e host _ := by simp [mute t e host]
  alike t e host host' _ _ _ := ⟨by rw [mute t e host, mute t e host'], rfl⟩
  apart _ _ _ _ _ _ := rfl

open TriggerHost (Typewise FailsTypewise CountsTypewise)

variable {view : String → τ → V} {I : τ → Prop}

/-! ### Calls for one event -/

namespace Event

variable {e : Event} {host host' : τ}

/-- After the calls for an event, what is shown of other types is the same as before. -/
theorem callAll_apart (typewise : Typewise view I) (triggers : List Trigger) (holds : I host) :
    I (e.callAll triggers host).2.2 ∧
      (∀ r ∈ (e.callAll triggers host).2.1, ∃ u, r = .forType e.typeName u) ∧
      ∀ n, n ≠ e.typeName → view n (e.callAll triggers host).2.2 = view n host := by
  induction triggers generalizing host with
  | nil => exact ⟨holds, by simp [callAll], fun _ _ => rfl⟩
  | cons t rest ih =>
    obtain ⟨later, own, apart⟩ := ih (typewise.kept t e host holds)
    refine ⟨later, ?_, fun n differ => ?_⟩
    · intro r listed
      rcases List.mem_append.1 listed with first | others
      · exact typewise.own t e host holds r first
      · exact own r others
    · exact (apart n differ).trans (typewise.apart t e host n holds differ)

/-- Hosts that show the same of the type of an event answer with the same registrations, and show
the same afterwards. -/
theorem callAll_alike (typewise : Typewise view I) (triggers : List Trigger) (holds : I host)
    (holds' : I host') (same : view e.typeName host = view e.typeName host') :
    (e.callAll triggers host).2.1 = (e.callAll triggers host').2.1 ∧
      view e.typeName (e.callAll triggers host).2.2
        = view e.typeName (e.callAll triggers host').2.2 := by
  induction triggers generalizing host host' with
  | nil => exact ⟨rfl, same⟩
  | cons t rest ih =>
    obtain ⟨registrations, shown⟩ := typewise.alike t e host host' holds holds' same
    obtain ⟨others, later⟩ :=
      ih (typewise.kept t e host holds) (typewise.kept t e host' holds') shown
    exact ⟨congrArg₂ (· ++ ·) registrations others, later⟩

end Event

/-- Every call counts. -/
theorem TriggerHost.countsTypewise_fired : CountsTypewise view I (·.fired) := by
  intro e triggers host host' _ _ _
  simp only [e.callAll_fired]

theorem TriggerHost.Typewise.counts_failures (typewise : Typewise view I)
    (fails : FailsTypewise view I) : CountsTypewise view I (·.failures.length) := by
  intro e triggers host host' holds holds' same
  induction triggers generalizing host host' with
  | nil => rfl
  | cons t rest ih =>
    have shown := (typewise.alike t e host host' holds holds' same).2
    have others := ih _ _ (typewise.kept t e host holds) (typewise.kept t e host' holds') shown
    have first := fails t e host host' holds holds' same
    have counted (reason : Option String) :
        ((reason.map (e.failure t)).toList).length = if reason.isSome then 1 else 0 := by
      cases reason <;> rfl
    simp only [Event.callAll, List.length_append, counted, first, others]

/-! ### Stores that are the same for a type -/

namespace Store

/-- Both stores tell the triggers of a type alike. -/
structure SameFor (view : String → τ → V) (n : String) (s t : Store σ τ) : Prop where
  global : t.dispatcher.global = s.dispatcher.global
  typed : t.dispatcher.forType n = s.dispatcher.forType n
  registered : t.session.caches.contains n = s.session.caches.contains n
  shown : view n t.host = view n s.host

end Store

namespace Dispatcher

/-- A registration for a type is refused, is there already, or comes last among those of the
type. -/
theorem register_forType_eq (d : Dispatcher) (n : String) (t : Trigger) :
    d.register (.forType n t) =
      if n = "" ∨ t.name = "" ∨ holds (d.forType n) t = true then d
      else { d with typed := d.typed.insert n (d.forType n ++ [t]) } := by
  simp only [register, addForType]
  by_cases unnamed : n = ""
  · simp [unnamed]
  · by_cases nameless : t.name = ""
    · simp [unnamed, nameless]
    · by_cases held : holds (d.forType n) t = true
      · simp [unnamed, nameless, held]
      · simp [unnamed, nameless, held]

/-- Registrations for one type leave the triggers of the others alone. -/
theorem register_forType_apart (d : Dispatcher) (n : String) (t : Trigger) :
    (d.register (.forType n t)).global = d.global ∧
      ∀ m, m ≠ n → (d.register (.forType n t)).forType m = d.forType m := by
  rw [register_forType_eq]
  split
  · exact ⟨rfl, fun _ _ => rfl⟩
  · refine ⟨rfl, fun m differ => ?_⟩
    unfold forType
    rw [OrderedMap.get?_insert_of_ne _ _ (Ne.symm differ)]

/-- What becomes of the triggers of a type depends on them alone. -/
theorem register_forType_alike {d d' : Dispatcher} {n : String}
    (same : d'.forType n = d.forType n) (t : Trigger) :
    (d'.register (.forType n t)).forType n = (d.register (.forType n t)).forType n := by
  rw [register_forType_eq, register_forType_eq, same]
  split
  · exact same
  · simp [forType]

end Dispatcher

namespace Store

variable {s t : Store σ τ} {e : Event}

omit [TriggerHost τ]

/-- The registrations of triggers that ask for their own type only. -/
theorem foldl_register_apart {n : String} {registrations : List Registration}
    (own : ∀ r ∈ registrations, ∃ u, r = .forType n u) (s : Store σ τ) (d : Dispatcher) :
    (registrations.foldl s.register d).global = d.global ∧
      ∀ m, m ≠ n → (registrations.foldl s.register d).forType m = d.forType m := by
  induction registrations generalizing d with
  | nil => exact ⟨rfl, fun _ _ => rfl⟩
  | cons r rest ih =>
    obtain ⟨u, rfl⟩ := own r List.mem_cons_self
    obtain ⟨global, others⟩ :=
      ih (fun r listed => own r (List.mem_cons_of_mem _ listed)) (s.register d (.forType n u))
    have first : (s.register d (.forType n u)).global = d.global ∧
        ∀ m, m ≠ n → (s.register d (.forType n u)).forType m = d.forType m := by
      unfold register
      dsimp only
      split
      · exact d.register_forType_apart n u
      · exact ⟨rfl, fun _ _ => rfl⟩
    refine ⟨global.trans first.1, fun m differ => ?_⟩
    exact (others m differ).trans (first.2 m differ)

theorem foldl_register_alike {n : String} {registrations : List Registration}
    (own : ∀ r ∈ registrations, ∃ u, r = .forType n u)
    (registered : t.session.caches.contains n = s.session.caches.contains n) {d d' : Dispatcher}
    (same : d'.forType n = d.forType n) :
    (registrations.foldl t.register d').forType n
      = (registrations.foldl s.register d).forType n := by
  induction registrations generalizing d d' with
  | nil => exact same
  | cons r rest ih =>
    obtain ⟨u, rfl⟩ := own r List.mem_cons_self
    refine ih (fun r listed => own r (List.mem_cons_of_mem _ listed)) ?_
    unfold register
    dsimp only
    rw [registered]
    split
    · exact Dispatcher.register_forType_alike same u
    · exact same

end Store

/-! ### Telling events type by type -/

namespace Store

variable {s t : Store σ τ} {e : Event} {n : String}

omit [TriggerHost τ] in
theorem SameFor.trans {u : Store σ τ} (first : SameFor view n s t) (later : SameFor view n t u) :
    SameFor view n s u where
  global := later.global.trans first.global
  typed := later.typed.trans first.typed
  registered := later.registered.trans first.registered
  shown := later.shown.trans first.shown

theorem tell_kept (typewise : Typewise view I) (holds : I s.host) (e : Event) : I (s.tell e).host :=
  (e.callAll_apart typewise (s.dispatcher.targets e.typeName) holds).1

/-- An event leaves a store the same for all other types. -/
theorem tell_apart (typewise : Typewise view I) (holds : I s.host) (differ : n ≠ e.typeName) :
    SameFor view n s (s.tell e) := by
  obtain ⟨-, own, apart⟩ := e.callAll_apart typewise (s.dispatcher.targets e.typeName) holds
  obtain ⟨global, others⟩ := foldl_register_apart own s s.dispatcher
  exact ⟨global, others n differ, rfl, apart n differ⟩

/-- Stores that are the same for the type of an event are so afterwards. -/
theorem tell_alike (typewise : Typewise view I) (holds : I s.host) (holds' : I t.host)
    (same : SameFor view e.typeName s t) : SameFor view e.typeName (s.tell e) (t.tell e) := by
  have targets : t.dispatcher.targets e.typeName = s.dispatcher.targets e.typeName := by
    simp [Dispatcher.targets, same.global, same.typed]
  obtain ⟨-, own, -⟩ := e.callAll_apart typewise (s.dispatcher.targets e.typeName) holds
  obtain ⟨registrations, shown⟩ :=
    e.callAll_alike typewise (s.dispatcher.targets e.typeName) holds holds' same.shown.symm
  have dispatcher : (t.tell e).dispatcher = (e.callAll (s.dispatcher.targets e.typeName)
      s.host).2.1.foldl t.register t.dispatcher := by
    show (e.callAll (t.dispatcher.targets e.typeName) t.host).2.1.foldl t.register _ = _
    rw [targets, registrations]
  obtain ⟨global, -⟩ := foldl_register_apart own s s.dispatcher
  obtain ⟨global', -⟩ := foldl_register_apart own t t.dispatcher
  refine ⟨?_, ?_, same.registered, ?_⟩
  · rw [dispatcher, global', same.global]
    exact global.symm
  · rw [dispatcher]
    exact foldl_register_alike own same.registered same.typed
  · show view e.typeName (e.callAll (t.dispatcher.targets e.typeName) t.host).2.2 = _
    rw [targets, ← shown]
    rfl

/-! ### What is counted of the triggers -/

/-- What is counted of the calls while events are told. -/
def reported (count : DispatchReport → Nat) : List Event → Store σ τ → Nat
  | [], _ => 0
  | e :: rest, s => count (s.dispatcher.fire e s.host).1 + reported count rest (s.tell e)

theorem reported_append (count : DispatchReport → Nat) (events more : List Event)
    (s : Store σ τ) : reported count (events ++ more) s
      = reported count events s + reported count more (events.foldl tell s) := by
  induction events generalizing s with
  | nil => exact (Nat.zero_add _).symm
  | cons e rest ih =>
    simp only [List.cons_append, reported, List.foldl_cons, ih]
    omega

theorem foldl_tell_fired (events : List Event) (s : Store σ τ) :
    (events.foldl tell s).fired = s.fired + reported (·.fired) events s := by
  induction events generalizing s with
  | nil => rfl
  | cons e rest ih =>
    have first : (s.tell e).fired = s.fired + (s.dispatcher.fire e s.host).1.fired := rfl
    rw [List.foldl_cons, ih, first, reported, Nat.add_assoc]

theorem foldl_tell_failed (events : List Event) (s : Store σ τ) :
    (events.foldl tell s).failed = s.failed + reported (·.failures.length) events s := by
  induction events generalizing s with
  | nil => rfl
  | cons e rest ih =>
    have first : (s.tell e).failed = s.failed + (s.dispatcher.fire e s.host).1.failures.length :=
      rfl
    rw [List.foldl_cons, ih, first, reported, Nat.add_assoc]

variable {events : List Event} {count : DispatchReport → Nat}

theorem foldl_tell_kept (typewise : Typewise view I) (holds : I s.host) (events : List Event) :
    I (events.foldl tell s).host := by
  induction events generalizing s with
  | nil => exact holds
  | cons e rest ih => exact ih (tell_kept typewise holds e)

/-- Events of one type leave a store the same for the others. -/
theorem foldl_tell_apart (typewise : Typewise view I) (holds : I s.host)
    (others : ∀ e ∈ events, n ≠ e.typeName) : SameFor view n s (events.foldl tell s) := by
  induction events generalizing s with
  | nil => exact ⟨rfl, rfl, rfl, rfl⟩
  | cons e rest ih =>
    have first := tell_apart typewise holds (others e List.mem_cons_self)
    exact first.trans (ih (tell_kept typewise holds e)
      fun e listed => others e (List.mem_cons_of_mem _ listed))

/-- Of events of one type the same is counted in stores that are the same for it. -/
theorem reported_alike (typewise : Typewise view I) (counts : CountsTypewise view I count)
    (holds : I s.host) (holds' : I t.host) (same : SameFor view n s t)
    (own : ∀ e ∈ events, e.typeName = n) : reported count events t = reported count events s := by
  induction events generalizing s t with
  | nil => rfl
  | cons e rest ih =>
    obtain rfl := own e List.mem_cons_self
    have later := ih (tell_kept typewise holds e) (tell_kept typewise holds' e)
      (tell_alike typewise holds holds' same) fun e listed => own e (List.mem_cons_of_mem _ listed)
    have targets : t.dispatcher.targets e.typeName = s.dispatcher.targets e.typeName := by
      simp [Dispatcher.targets, same.global, same.typed]
    simp only [reported, later, Dispatcher.fire, targets]
    rw [counts e _ t.host s.host holds' holds same.shown]

/-- If types take turns, every type counts as if its events were told alone. -/
theorem reported_flatMap (typewise : Typewise view I) (counts : CountsTypewise view I count)
    (holds : I s.host) {events : String → List Event}
    (own : ∀ n, ∀ e ∈ events n, e.typeName = n) {names : List String} (once : names.Nodup) :
    reported count (names.flatMap events) s
      = (names.map fun n => reported count (events n) s).sum := by
  induction names generalizing s with
  | nil => rfl
  | cons n rest ih =>
    obtain ⟨fresh, once⟩ := List.nodup_cons.1 once
    have kept := foldl_tell_kept typewise holds (events n)
    have others : rest.map (fun m => reported count (events m) ((events n).foldl tell s))
        = rest.map fun m => reported count (events m) s := by
      refine List.map_congr_left fun m listed => ?_
      refine reported_alike typewise counts holds kept ?_ (own m)
      refine foldl_tell_apart typewise holds fun e told => ?_
      rw [own n e told]
      rintro rfl
      exact fresh listed
    rw [List.flatMap_cons, reported_append, ih kept once, others, List.map_cons, List.sum_cons]

/-- So it does not matter in which order they take turns. -/
theorem reported_perm (typewise : Typewise view I) (counts : CountsTypewise view I count)
    (holds : I s.host) {events : String → List Event}
    (own : ∀ n, ∀ e ∈ events n, e.typeName = n) {names others : List String} (once : names.Nodup)
    (same : others.Perm names) :
    reported count (others.flatMap events) s = reported count (names.flatMap events) s := by
  rw [reported_flatMap typewise counts holds own once,
    reported_flatMap typewise counts holds own (same.nodup_iff.2 once)]
  exact (same.map _).sum_nat

end Store

/-- If types take turns, the events of a type among all events are those of its turn. -/
theorem Event.filter_flatMap {events : String → List Event}
    (own : ∀ n, ∀ e ∈ events n, e.typeName = n) {names : List String} (once : names.Nodup)
    (n : String) :
    (names.flatMap events).filter (·.typeName = n) = if n ∈ names then events n else [] := by
  induction names with
  | nil => rfl
  | cons m rest ih =>
    obtain ⟨fresh, once⟩ := List.nodup_cons.1 once
    rw [List.flatMap_cons, List.filter_append, ih once]
    by_cases same : m = n
    · subst same
      have all : (events m).filter (·.typeName = m) = events m :=
        List.filter_eq_self.2 fun e told => by simp [own m e told]
      simp [all, fresh]
    · have none : (events m).filter (·.typeName = n) = [] :=
        List.filter_eq_nil_iff.2 fun e told => by simp [own m e told, same]
      simp [none, Ne.symm same]

/-! ### Scripted triggers -/

namespace ScriptedHost

/-- No trigger of the script registers another one. -/
def Idle (host : ScriptedHost) : Prop := ∀ code ∈ host.triggers, ∃ o, code.behaviour = .finish o

variable {t : Trigger} {e : Event} {host : ScriptedHost}

theorem react_triggers : (TriggerHost.react t e host).2.triggers = host.triggers := by
  unfold TriggerHost.react instTriggerHost
  dsimp only
  split <;> rfl

theorem Idle.registrations (idle : host.Idle) :
    (TriggerHost.react t e host).1.registrations = [] := by
  unfold TriggerHost.react instTriggerHost
  dsimp only
  split
  · rfl
  · rename_i code found
    obtain ⟨o, finishes⟩ := idle code (List.mem_of_getElem? found)
    simp only [reaction, finishes]
    split <;> rfl

/-- Scripted triggers have nothing in mind but their script. -/
theorem typewise : Typewise (fun _ => ScriptedHost.triggers) Idle where
  kept t e host idle := by
    unfold Idle
    rw [react_triggers]
    exact idle
  own t e host idle := by simp [idle.registrations]
  alike t e host host' idle idle' same :=
    ⟨by rw [idle.registrations, idle'.registrations], by rw [react_triggers, react_triggers, same]⟩
  apart t e host n _ _ := react_triggers

theorem failsTypewise : FailsTypewise (fun _ => ScriptedHost.triggers) Idle := by
  intro t e host host' idle idle' same
  unfold TriggerHost.react instTriggerHost
  dsimp only at same ⊢
  rw [same]
  cases found : host'.triggers[t.id]? with
  | none => rfl
  | some code =>
    obtain ⟨o, finishes⟩ := idle' code (List.mem_of_getElem? found)
    simp only [reaction, finishes]

end ScriptedHost

end IdentityMap
