import IdentityMap.Proofs.Store.Operation
/-!
# How calls of triggers end

A trigger may succeed, fail or break off, and a store goes on alike. Two stores are compared whose
triggers differ in nothing but that: they stand in one state and were told of the same events so
far (`Store.Alike`). Every action answers the same in both and leaves them alike (`Lockstep`), and
so do whole runs. What may differ is the failures that are kept and their count.

A trigger can act on its store only through registrations that it asks for. Here it asks for none.
-/

namespace IdentityMap

variable {σ τ τ₁ τ₂ α β : Type}

/-! ### Hosts that keep a record of their calls -/

/-- A host together with the calls that its triggers have had, the first one first. -/
structure Recorded (τ : Type) where
  host : τ
  calls : List (Trigger × Event) := []

instance [TriggerHost τ] : TriggerHost (Recorded τ) where
  react t e recorded :=
    let (reaction, host) := TriggerHost.react t e recorded.host
    (reaction, ⟨host, recorded.calls ++ [(t, e)]⟩)

/-- No trigger asks its store for anything. -/
def TriggerHost.Mute (τ : Type) [TriggerHost τ] : Prop :=
  ∀ (t : Trigger) (e : Event) (host : τ), (react t e host).1.registrations = []

/-- Whatever the calls come to, every trigger has one. -/
theorem Event.callAll_fired [TriggerHost τ] (e : Event) (triggers : List Trigger) (host : τ) :
    (e.callAll triggers host).1.fired = triggers.length := by
  induction triggers generalizing host with
  | nil => rfl
  | cons t rest ih => exact congrArg (· + 1) (ih _)

theorem Event.callAll_recorded [TriggerHost τ] (mute : TriggerHost.Mute τ) (e : Event)
    (triggers : List Trigger) (host : Recorded τ) :
    (e.callAll triggers host).2.1 = [] ∧
      (e.callAll triggers host).2.2.calls = host.calls ++ triggers.map (·, e) := by
  induction triggers generalizing host with
  | nil => exact ⟨rfl, (List.append_nil _).symm⟩
  | cons t rest ih =>
    obtain ⟨silent, calls⟩ := ih (TriggerHost.react t e host).2
    refine ⟨?_, ?_⟩
    · exact List.append_eq_nil_iff.2 ⟨mute t e host.host, silent⟩
    · exact calls.trans (List.append_cons host.calls (t, e) _).symm

namespace Store

/-! ### Stores that differ in their failures only -/

/-- Two stores in one state, up to the failures of their triggers. The session takes in the row
store with all that it was asked, the caches, the sequences and the counters. -/
structure Alike (s₁ : Store σ (Recorded τ₁)) (s₂ : Store σ (Recorded τ₂)) : Prop where
  session : s₁.session = s₂.session
  dispatcher : s₁.dispatcher = s₂.dispatcher
  fired : s₁.fired = s₂.fired
  calls : s₁.host.calls = s₂.host.calls

theorem alike_openWith {dialect : Sql.Dialect} {settings : Settings} {rows : σ} {host₁ : τ₁}
    {host₂ : τ₂} {s₁ : Store σ (Recorded τ₁)} {s₂ : Store σ (Recorded τ₂)}
    (opened₁ : openWith dialect settings rows ⟨host₁, []⟩ = .ok s₁)
    (opened₂ : openWith dialect settings rows ⟨host₂, []⟩ = .ok s₂) : Alike s₁ s₂ := by
  obtain rfl := opened_session opened₁
  obtain rfl := opened_session opened₂
  exact ⟨rfl, rfl, rfl, rfl⟩

variable [TriggerHost τ₁] [TriggerHost τ₂] {s₁ : Store σ (Recorded τ₁)}
  {s₂ : Store σ (Recorded τ₂)}

theorem tell_recorded [TriggerHost τ] (mute : TriggerHost.Mute τ) (s : Store σ (Recorded τ))
    (e : Event) :
    (s.tell e).dispatcher = s.dispatcher ∧
      (s.tell e).fired = s.fired + (s.dispatcher.targets e.typeName).length ∧
      (s.tell e).host.calls = s.host.calls ++ (s.dispatcher.targets e.typeName).map (·, e) := by
  have fired := e.callAll_fired (s.dispatcher.targets e.typeName) s.host
  obtain ⟨silent, calls⟩ := e.callAll_recorded mute (s.dispatcher.targets e.typeName) s.host
  refine ⟨?_, congrArg (s.fired + ·) fired, calls⟩
  show (e.callAll (s.dispatcher.targets e.typeName) s.host).2.1.foldl s.register s.dispatcher = _
  rw [silent]
  rfl

section Mute

variable (mute₁ : TriggerHost.Mute τ₁) (mute₂ : TriggerHost.Mute τ₂)
include mute₁ mute₂

theorem Alike.tell (alike : Alike s₁ s₂) (e : Event) : Alike (s₁.tell e) (s₂.tell e) := by
  obtain ⟨dispatcher₁, fired₁, calls₁⟩ := tell_recorded mute₁ s₁ e
  obtain ⟨dispatcher₂, fired₂, calls₂⟩ := tell_recorded mute₂ s₂ e
  refine ⟨alike.session, ?_, ?_, ?_⟩
  · rw [dispatcher₁, dispatcher₂, alike.dispatcher]
  · rw [fired₁, fired₂, alike.dispatcher, alike.fired]
  · rw [calls₁, calls₂, alike.dispatcher, alike.calls]

theorem Alike.deliver (alike : Alike s₁ s₂) : Alike s₁.deliver s₂.deliver := by
  have told (events : List Event) : ∀ {s₁ : Store σ (Recorded τ₁)} {s₂ : Store σ (Recorded τ₂)},
      Alike s₁ s₂ → Alike (events.foldl Store.tell s₁) (events.foldl Store.tell s₂) := by
    induction events with
    | nil => exact fun alike => alike
    | cons e rest ih => exact fun alike => ih (alike.tell mute₁ mute₂ e)
  have emptied : Alike { s₁ with session := { s₁.session with outbox := [] } }
      { s₂ with session := { s₂.session with outbox := [] } } :=
    ⟨by rw [alike.session], alike.dispatcher, alike.fired, alike.calls⟩
  unfold Store.deliver
  rw [← alike.session]
  exact told _ (alike.session ▸ emptied)

end Mute

/-- Two actions answer the same in stores that are alike, and leave them alike. -/
def Lockstep (a₁ : Action σ (Recorded τ₁) α) (a₂ : Action σ (Recorded τ₂) α) : Prop :=
  ∀ ⦃s₁ s₂⦄, Alike s₁ s₂ → (a₁ s₁).1 = (a₂ s₂).1 ∧ Alike (a₁ s₁).2 (a₂ s₂).2

namespace Lockstep

omit [TriggerHost τ₁] [TriggerHost τ₂] in
theorem pure (a : α) :
    Lockstep (Pure.pure a : Action σ (Recorded τ₁) α) (Pure.pure a : Action σ (Recorded τ₂) α) :=
  fun _ _ alike => ⟨rfl, alike⟩

omit [TriggerHost τ₁] [TriggerHost τ₂] in
theorem bind {a₁ : Action σ (Recorded τ₁) α} {a₂ : Action σ (Recorded τ₂) α}
    {next₁ : α → Action σ (Recorded τ₁) β} {next₂ : α → Action σ (Recorded τ₂) β}
    (first : Lockstep a₁ a₂) (next : ∀ a, Lockstep (next₁ a) (next₂ a)) :
    Lockstep (a₁ >>= next₁) (a₂ >>= next₂) := by
  intro s₁ s₂ alike
  obtain ⟨same, between⟩ := first alike
  rcases ran₁ : a₁ s₁ with ⟨o₁, t₁⟩
  rcases ran₂ : a₂ s₂ with ⟨o₂, t₂⟩
  rw [ran₁, ran₂] at same between
  obtain rfl : o₁ = o₂ := same
  cases o₁ with
  | error e =>
    rw [bind_of_error ran₁, bind_of_error ran₂]
    exact ⟨rfl, between⟩
  | ok a =>
    rw [bind_of_ok ran₁, bind_of_ok ran₂]
    exact next a between

/-- Work on the session comes to the same, and then the triggers are told of the same events. -/
theorem perform (mute₁ : TriggerHost.Mute τ₁) (mute₂ : TriggerHost.Mute τ₂) (work : Work σ α) :
    Lockstep (Store.perform work : Action σ (Recorded τ₁) α)
      (Store.perform work : Action σ (Recorded τ₂) α) := by
  intro s₁ s₂ alike
  obtain ⟨session, dispatcher, fired, calls⟩ := alike
  unfold Store.perform
  rw [← session]
  exact ⟨rfl, Alike.deliver mute₁ mute₂ ⟨rfl, dispatcher, fired, calls⟩⟩

end Lockstep

/-! ### Operations with all that they answer -/

/-- What an operation answers with. The failures that are handed over are not compared. -/
inductive Answer
  | done
  | instance? (h : Option Handle)
  | instances (handles : List Handle)
  | count (n : Nat)
  | flag (yes : Bool)

variable [RowStore σ]

open Answer in
/-- Perform an operation; all that it answers with. -/
def answer [TriggerHost τ] (op : Operation) (s : Store σ τ) : Except Error Answer × Store σ τ :=
  let as {α : Type} (f : α → Answer) (a : Action σ τ α) : Except Error Answer × Store σ τ :=
    ((a s).1.map f, (a s).2)
  match op with
  | .request (.register t) => as (fun _ => done) (registerType t)
  | .request (.get typeName key policy) => as instance? (get typeName key policy)
  | .request (.getSome typeName keys policy) => as instances (getSome typeName keys policy)
  | .request (.getAll typeName policy) => as instances (getAll typeName policy)
  | .request (.getSize typeName policy) => as count (getSize typeName policy)
  | .request (.persist d) => as (fun h => instance? (some h)) (persist d)
  | .request (.persistAll drafts) => as instances (persistAll drafts)
  | .request (.deleteKeys typeName keys) => as count (deleteKeys typeName keys)
  | .request (.deleteAll typeName) => as count (deleteAll typeName)
  | .request (.refreshKeys typeName keys) => as instances (refreshKeys typeName keys)
  | .request (.refreshType typeName) => as (fun _ => done) (perform (Session.refreshType typeName))
  | .delete h => as flag (delete h)
  | .deleteInstances handles => as count (deleteInstances handles)
  | .refreshInstances handles => as (fun _ => done) (refreshInstances handles)
  | .refresh => as (fun _ => done) refresh
  | .refreshScheduled schedule _ => as (fun _ => done) (refreshScheduled schedule)
  | .addGlobalTrigger t => as flag (addGlobalTrigger t)
  | .addTrigger typeName t => as flag (addTrigger typeName t)
  | .dropGlobalTrigger t => (.ok (flag (dropGlobalTrigger t s).1), (dropGlobalTrigger t s).2)
  | .dropTrigger typeName t =>
    (.ok (flag (dropTrigger typeName t s).1), (dropTrigger typeName t s).2)
  | .takeFailures => (.ok done, (takeFailures s).2)

theorem answer_run [TriggerHost τ] (op : Operation) (s : Store σ τ) :
    (answer op s).2 = (op.run s).2 := by
  cases op with
  | request r => cases r <;> rfl
  | _ => rfl

/-- The answers to some operations, one after the other. -/
def answers [TriggerHost τ] : List Operation → Store σ τ → List (Except Error Answer)
  | [], _ => []
  | op :: rest, s => (answer op s).1 :: answers rest (answer op s).2

section Mute

variable (mute₁ : TriggerHost.Mute τ₁) (mute₂ : TriggerHost.Mute τ₂)
include mute₁ mute₂

theorem lockstep_deleteKeys (typeName : String) (keys : List EntityKey) :
    Lockstep (deleteKeys typeName keys : Action σ (Recorded τ₁) Nat)
      (deleteKeys typeName keys : Action σ (Recorded τ₂) Nat) := by
  intro s₁ s₂ alike
  have observed : s₁.dispatcher.hasTriggers typeName = s₂.dispatcher.hasTriggers typeName := by
    rw [alike.dispatcher]
  have deletes {τ : Type} [TriggerHost τ] (s : Store σ τ) : deleteKeys typeName keys s
      = perform (Session.deleteKeys (s.dispatcher.hasTriggers typeName) typeName keys) s := rfl
  rw [deletes, deletes, observed]
  exact Lockstep.perform mute₁ mute₂ _ alike

theorem lockstep_deleteGroups (groups : List (String × List Handle)) :
    Lockstep (deleteGroups groups : Action σ (Recorded τ₁) Nat)
      (deleteGroups groups : Action σ (Recorded τ₂) Nat) := by
  induction groups with
  | nil => exact .pure 0
  | cons group rest ih =>
    exact (lockstep_deleteKeys mute₁ mute₂ _ _).bind fun deleted => ih.bind fun others =>
      .pure (deleted + others)

theorem lockstep_refreshGroups (groups : List (String × List Handle)) :
    Lockstep (refreshGroups groups : Action σ (Recorded τ₁) Unit)
      (refreshGroups groups : Action σ (Recorded τ₂) Unit) := by
  induction groups with
  | nil => exact .pure ()
  | cons group rest ih => exact (Lockstep.perform mute₁ mute₂ _).bind fun _ => ih

theorem refreshTypes_alike (names : List String) (alike : Alike s₁ s₂) :
    (refreshTypes names s₁).1 = (refreshTypes names s₂).1 ∧
      Alike (refreshTypes names s₁).2 (refreshTypes names s₂).2 := by
  induction names generalizing s₁ s₂ with
  | nil => exact ⟨rfl, alike⟩
  | cons typeName rest ih =>
    obtain ⟨same, next⟩ := Lockstep.perform mute₁ mute₂ (Session.refreshType typeName) alike
    obtain ⟨others, last⟩ := ih next
    have parts {τ : Type} [TriggerHost τ] (s : Store σ τ) : (refreshTypes (typeName :: rest) s).1
        = (perform (Session.refreshType typeName) s).1
          :: (refreshTypes rest (perform (Session.refreshType typeName) s).2).1 := rfl
    refine ⟨?_, last⟩
    rw [parts, parts, same, others]

theorem lockstep_refresh :
    Lockstep (refresh : Action σ (Recorded τ₁) Unit) (refresh : Action σ (Recorded τ₂) Unit) := by
  intro s₁ s₂ alike
  obtain ⟨same, last⟩ := refreshTypes_alike mute₁ mute₂ s₁.session.caches.keys alike
  have types : s₁.session.caches.keys = s₂.session.caches.keys := by rw [alike.session]
  unfold refresh
  rw [← types]
  exact ⟨congrArg firstError same, last⟩

theorem lockstep_refreshScheduled (schedule : List Nat) :
    Lockstep (refreshScheduled schedule : Action σ (Recorded τ₁) Unit)
      (refreshScheduled schedule : Action σ (Recorded τ₂) Unit) := by
  intro s₁ s₂ alike
  obtain ⟨same, last⟩ := refreshTypes_alike mute₁ mute₂
    (schedule.filterMap (s₁.session.caches.keys[·]?)) alike
  have types : s₁.session.caches.keys = s₂.session.caches.keys := by rw [alike.session]
  unfold refreshScheduled
  simp only [← types, same]
  exact ⟨trivial, last⟩

end Mute

omit [RowStore σ] [TriggerHost τ₁] [TriggerHost τ₂] in
theorem Alike.redirected (alike : Alike s₁ s₂) (dispatcher : Dispatcher) :
    Alike { s₁ with dispatcher } { s₂ with dispatcher } :=
  ⟨alike.session, rfl, alike.fired, alike.calls⟩

omit [RowStore σ] [TriggerHost τ₁] [TriggerHost τ₂] in
theorem lockstep_addGlobalTrigger (t : Trigger) :
    Lockstep (addGlobalTrigger t : Action σ (Recorded τ₁) Bool)
      (addGlobalTrigger t : Action σ (Recorded τ₂) Bool) := by
  intro s₁ s₂ alike
  unfold addGlobalTrigger
  rw [← alike.dispatcher]
  cases s₁.dispatcher.addGlobal t with
  | error e => exact ⟨rfl, alike⟩
  | ok added => exact ⟨rfl, alike.redirected added.2⟩

omit [RowStore σ] [TriggerHost τ₁] [TriggerHost τ₂] in
theorem lockstep_addTrigger (typeName : String) (t : Trigger) :
    Lockstep (addTrigger typeName t : Action σ (Recorded τ₁) Bool)
      (addTrigger typeName t : Action σ (Recorded τ₂) Bool) := by
  intro s₁ s₂ alike
  have decided : ((s₁.cache typeName).bind fun _ => s₁.dispatcher.addForType typeName t)
      = (s₂.cache typeName).bind fun _ => s₂.dispatcher.addForType typeName t := by
    unfold Store.cache
    rw [alike.session, alike.dispatcher]
  unfold addTrigger
  rw [← decided]
  cases (s₁.cache typeName).bind fun _ => s₁.dispatcher.addForType typeName t with
  | error e => exact ⟨rfl, alike⟩
  | ok added => exact ⟨rfl, alike.redirected added.2⟩

omit [RowStore σ] [TriggerHost τ₁] [TriggerHost τ₂] in
theorem dropGlobalTrigger_alike (t : Trigger) (alike : Alike s₁ s₂) :
    (dropGlobalTrigger t s₁).1 = (dropGlobalTrigger t s₂).1 ∧
      Alike (dropGlobalTrigger t s₁).2 (dropGlobalTrigger t s₂).2 := by
  unfold dropGlobalTrigger
  rw [← alike.dispatcher]
  exact ⟨rfl, alike.redirected _⟩

omit [RowStore σ] [TriggerHost τ₁] [TriggerHost τ₂] in
theorem dropTrigger_alike (typeName : String) (t : Trigger) (alike : Alike s₁ s₂) :
    (dropTrigger typeName t s₁).1 = (dropTrigger typeName t s₂).1 ∧
      Alike (dropTrigger typeName t s₁).2 (dropTrigger typeName t s₂).2 := by
  unfold dropTrigger
  rw [← alike.dispatcher]
  exact ⟨rfl, alike.redirected _⟩

section Mute

variable (mute₁ : TriggerHost.Mute τ₁) (mute₂ : TriggerHost.Mute τ₂)
include mute₁ mute₂

/-- Every operation answers the same in stores that are alike, and leaves them alike. -/
theorem answer_alike (op : Operation) (alike : Alike s₁ s₂) :
    (answer op s₁).1 = (answer op s₂).1 ∧ Alike (answer op s₁).2 (answer op s₂).2 := by
  have lift {α : Type} (f : α → Answer) {a₁ : Action σ (Recorded τ₁) α}
      {a₂ : Action σ (Recorded τ₂) α} (lockstep : Lockstep a₁ a₂) :
      (a₁ s₁).1.map f = (a₂ s₂).1.map f ∧ Alike (a₁ s₁).2 (a₂ s₂).2 :=
    (lockstep alike).imp_left (congrArg (Except.map f))
  cases op with
  | request r =>
    cases r with
    | deleteKeys typeName keys => exact lift .count (lockstep_deleteKeys mute₁ mute₂ _ _)
    | register _ | refreshType _ => exact lift (fun _ => .done) (.perform mute₁ mute₂ _)
    | get _ _ _ => exact lift .instance? (.perform mute₁ mute₂ _)
    | persist _ => exact lift (fun h => .instance? (some h)) (.perform mute₁ mute₂ _)
    | getSize _ _ | deleteAll _ => exact lift .count (.perform mute₁ mute₂ _)
    | getSome _ _ _ | getAll _ _ | persistAll _ | refreshKeys _ _ =>
      exact lift .instances (.perform mute₁ mute₂ _)
  | delete h =>
    exact lift .flag ((lockstep_deleteKeys mute₁ mute₂ _ _).bind fun deleted =>
      .pure (decide (0 < deleted)))
  | deleteInstances handles => exact lift .count (lockstep_deleteGroups mute₁ mute₂ _)
  | refreshInstances handles =>
    exact lift (fun _ => .done) (lockstep_refreshGroups mute₁ mute₂ _)
  | refresh => exact lift (fun _ => .done) (lockstep_refresh mute₁ mute₂)
  | refreshScheduled schedule _ =>
    exact lift (fun _ => .done) (lockstep_refreshScheduled mute₁ mute₂ schedule)
  | addGlobalTrigger t => exact lift .flag (lockstep_addGlobalTrigger t)
  | addTrigger typeName t => exact lift .flag (lockstep_addTrigger typeName t)
  | dropGlobalTrigger t =>
    exact (dropGlobalTrigger_alike t alike).imp_left fun same =>
      congrArg (fun found => Except.ok (Answer.flag found)) same
  | dropTrigger typeName t =>
    exact (dropTrigger_alike typeName t alike).imp_left fun same =>
      congrArg (fun found => Except.ok (Answer.flag found)) same
  | takeFailures => exact ⟨rfl, alike.session, alike.dispatcher, alike.fired, alike.calls⟩

theorem after_alike (ops : List Operation) (alike : Alike s₁ s₂) :
    Alike (s₁.after ops) (s₂.after ops) := by
  induction ops generalizing s₁ s₂ with
  | nil => exact alike
  | cons op rest ih =>
    have next := (answer_alike mute₁ mute₂ op alike).2
    rw [answer_run, answer_run] at next
    exact ih next

theorem answers_alike (ops : List Operation) (alike : Alike s₁ s₂) :
    answers ops s₁ = answers ops s₂ := by
  induction ops generalizing s₁ s₂ with
  | nil => rfl
  | cons op rest ih =>
    obtain ⟨same, next⟩ := answer_alike mute₁ mute₂ op alike
    rw [answers, answers, same, ih next]

/-- **Outcomes of triggers stay with the triggers.** Take two stores that are alike, over the same
row store, and the same operations on both, where no trigger acts on its store. However the calls of
the triggers end in the one and in the other, every operation answers the same, and after every
operation the stores are alike again: the same session, with the caches, the sequences, the counters
and all that the row store was asked, and the same calls of the same triggers with the same events
in the same order. -/
theorem outcomes_unseen (ops : List Operation) (alike : Alike s₁ s₂) :
    answers ops s₁ = answers ops s₂ ∧
      ∀ n, Alike (s₁.after (ops.take n)) (s₂.after (ops.take n)) :=
  ⟨answers_alike mute₁ mute₂ ops alike, fun n => after_alike mute₁ mute₂ (ops.take n) alike⟩

end Mute

end Store

/-! ### A trigger that fails and one that does not -/

namespace Sample

/-- Triggers whose calls all end alike. -/
structure Steady where
  outcome : TriggerOutcome

instance : TriggerHost Steady where
  react _ _ host := ({ outcome := host.outcome }, host)

/-- A store that has just been opened, with triggers that end so. -/
def steady (outcome : TriggerOutcome) : Store Script (Recorded Steady) where
  session := {
    settings := { createTables := false }
    gateway := { dialect := Sql.Dialect.ansi, rows := { replies := [.count 1, .count 1] } } }
  host := ⟨⟨outcome⟩, []⟩

end Sample

/-- A gauge is persisted and deleted, before a trigger that succeeds and before one that breaks off.
Both triggers are called twice. -/
theorem Store.outcomes_unseen_gauge :
    let s₁ := Sample.steady .succeeded
    let s₂ := Sample.steady (.brokeOff none)
    let ops : List Operation := [.request (.register Sample.gauge), .addGlobalTrigger ⟨0, "watch"⟩,
      .request (.persist ⟨Sample.gauge, .create, Sample.level 1 5⟩),
      .request (.deleteKeys "Gauge" [.int 1])]
    TriggerHost.Mute Sample.Steady ∧ Alike s₁ s₂ ∧
      (answers ops s₁ = answers ops s₂ ∧
        ∀ n, Alike (s₁.after (ops.take n)) (s₂.after (ops.take n))) ∧
      (s₁.after ops).fired = 2 ∧ (s₁.after ops).failed = 0 ∧ (s₂.after ops).failed = 2 := by
  intro s₁ s₂ ops
  have mute : TriggerHost.Mute Sample.Steady := fun _ _ _ => rfl
  have opened (outcome : TriggerOutcome) : openWith Sql.Dialect.ansi { createTables := false }
      { replies := [.count 1, .count 1] } ⟨⟨outcome⟩, []⟩ = .ok (Sample.steady outcome) := rfl
  have alike : Alike s₁ s₂ := alike_openWith (opened .succeeded) (opened (.brokeOff none))
  exact ⟨mute, alike, outcomes_unseen mute mute ops alike, by decide +kernel, by decide +kernel,
    by decide +kernel⟩

end IdentityMap
