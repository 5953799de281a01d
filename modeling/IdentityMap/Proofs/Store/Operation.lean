import IdentityMap.Proofs.Session.Request
import IdentityMap.RowStore.Scripted
import IdentityMap.Store
import IdentityMap.Trigger.Scripted
/-!
# Operations on a store

An operation is whatever can be asked of a store. Each of them amounts to requests to the session,
one after the other, and triggers are told after every request; the other operations are about
triggers alone and leave the session as it is (`Operation.serves`). So what every request keeps is
kept by whole runs (`Store.Serves.keeps`).
-/

namespace IdentityMap

variable {σ τ : Type} [RowStore σ] [TriggerHost τ]

namespace Store

/-- Do what a request asks for; the instances that it answers with. -/
def ask (r : Request) (s : Store σ τ) : Except Error (List Handle) × Store σ τ :=
  let answered {α : Type} (instances : α → List Handle) (answer : Except Error α × Store σ τ) :
      Except Error (List Handle) × Store σ τ := (answer.1.map instances, answer.2)
  match r with
  | .register t => answered (fun _ => []) (registerType t s)
  | .get typeName key policy => answered Option.toList (get typeName key policy s)
  | .getSome typeName keys policy => getSome typeName keys policy s
  | .getAll typeName policy => getAll typeName policy s
  | .getSize typeName policy => answered (fun _ => []) (getSize typeName policy s)
  | .persist d => answered ([·]) (persist d s)
  | .persistAll drafts => persistAll drafts s
  | .deleteKeys typeName keys => answered (fun _ => []) (deleteKeys typeName keys s)
  | .deleteAll typeName => answered (fun _ => []) (deleteAll typeName s)
  | .refreshKeys typeName keys => refreshKeys typeName keys s
  | .refreshType typeName => answered (fun _ => []) (perform (Session.refreshType typeName) s)

/-- The events that a request makes the store tell its triggers. -/
def dispatched (r : Request) (s : Store σ τ) : List Event :=
  (r.run s.dispatcher.hasTriggers s.session).2.outbox

omit [RowStore σ] in
/-- Telling triggers leaves the session alone. -/
theorem foldl_tell_session (events : List Event) (s : Store σ τ) :
    (events.foldl tell s).session = s.session := by
  induction events generalizing s with
  | nil => rfl
  | cons e rest ih => exact ih (s.tell e)

omit [RowStore σ] in
theorem deliver_session (s : Store σ τ) : s.deliver.session = { s.session with outbox := [] } :=
  foldl_tell_session _ _

/-- A request is run on the session, and then the triggers are told of its events in order. -/
theorem ask_eq (r : Request) (s : Store σ τ) :
    s.ask r = ((r.run s.dispatcher.hasTriggers s.session).1,
      (s.dispatched r).foldl tell { s with
        session := { (r.run s.dispatcher.hasTriggers s.session).2 with outbox := [] } }) := by
  cases r <;> rfl

theorem ask_session (r : Request) (s : Store σ τ) :
    (s.ask r).2.session =
      { (r.run s.dispatcher.hasTriggers s.session).2 with outbox := [] } := by
  rw [ask_eq]
  exact deliver_session { s with session := (r.run s.dispatcher.hasTriggers s.session).2 }

/-- What can be seen of a request is what its run on the session does. -/
theorem ask_cases (r : Request) (s : Store σ τ) :
    ∃ o u, r.run s.dispatcher.hasTriggers s.session = (o, u) ∧ (s.ask r).1 = o ∧
      (s.ask r).2.session = { u with outbox := [] } ∧ s.dispatched r = u.outbox := by
  rcases ran : r.run s.dispatcher.hasTriggers s.session with ⟨o, u⟩
  refine ⟨o, u, rfl, ?_, ?_, ?_⟩
  · rw [ask_eq, ran]
  · rw [ask_session, ran]
  · rw [dispatched, ran]

end Store

inductive Operation
  | request (r : Request)
  | delete (h : Handle)
  | deleteInstances (handles : List Handle)
  | refreshInstances (handles : List Handle)
  | refresh
  /-- Refresh as tasks; an executor completes those that it is given, none of them twice. -/
  | refreshScheduled (schedule : List Nat) (once : schedule.Nodup)
  | addGlobalTrigger (t : Trigger)
  | addTrigger (typeName : String) (t : Trigger)
  | dropGlobalTrigger (t : Trigger)
  | dropTrigger (typeName : String) (t : Trigger)
  | takeFailures

namespace Operation

open Store in
/-- Perform an operation; the instances that it answers with. -/
def run (op : Operation) (s : Store σ τ) : Except Error (List Handle) × Store σ τ :=
  let silent {α : Type} (answer : Except Error α × Store σ τ) :
      Except Error (List Handle) × Store σ τ := (answer.1.map fun _ => [], answer.2)
  match op with
  | request r => s.ask r
  | delete h => silent (Store.delete h s)
  | deleteInstances handles => silent (Store.deleteInstances handles s)
  | refreshInstances handles => silent (Store.refreshInstances handles s)
  | refresh => silent (Store.refresh s)
  | refreshScheduled schedule _ => silent (Store.refreshScheduled schedule s)
  | addGlobalTrigger t => silent (Store.addGlobalTrigger t s)
  | addTrigger typeName t => silent (Store.addTrigger typeName t s)
  | dropGlobalTrigger t => (.ok [], (Store.dropGlobalTrigger t s).2)
  | dropTrigger typeName t => (.ok [], (Store.dropTrigger typeName t s).2)
  | takeFailures => (.ok [], (Store.takeFailures s).2)

/-- The requests that an operation may make. -/
def MayAsk : Operation → Request → Prop
  | request asked, r => r = asked
  | delete _, r | deleteInstances _, r => ∃ typeName keys, r = .deleteKeys typeName keys
  | refreshInstances _, r => ∃ typeName keys, r = .refreshKeys typeName keys
  | refresh, r | refreshScheduled _ _, r => ∃ typeName, r = .refreshType typeName
  | _, _ => False

end Operation

namespace Store

/-- The store gets from one state to another by requests for which `P` holds. In between it may do
anything that is not about its session. -/
inductive Serves (P : Request → Prop) : Store σ τ → Store σ τ → Prop
  | refl (s : Store σ τ) : Serves P s s
  | ask {s s' : Store σ τ} (r : Request) (asked : P r) (rest : Serves P (s.ask r).2 s') :
    Serves P s s'
  | aside {s t s' : Store σ τ} (same : t.session = s.session) (rest : Serves P t s') :
    Serves P s s'

namespace Serves

variable {P Q : Request → Prop} {s t s' : Store σ τ}

theorem trans (first : Serves P s t) (later : Serves P t s') : Serves P s s' := by
  induction first with
  | refl _ => exact later
  | ask r asked _ ih => exact .ask r asked (ih later)
  | aside same _ ih => exact .aside same (ih later)

theorem mono (serves : Serves P s s') (weaker : ∀ r, P r → Q r) : Serves Q s s' := by
  induction serves with
  | refl s => exact .refl s
  | ask r asked _ ih => exact .ask r (weaker r asked) ih
  | aside same _ ih => exact .aside same ih

theorem single {r : Request} (asked : P r) : Serves P s (s.ask r).2 := .ask r asked (.refl _)

/-- What every request keeps, and the telling of triggers keeps, is kept throughout. -/
theorem keeps {I : Session σ → Prop} (serves : Serves P s s') (start : I s.session)
    (kept : ∀ r observed (u : Session σ), P r → I u → I (r.run observed u).2)
    (told : ∀ u : Session σ, I u → I { u with outbox := [] }) : I s'.session := by
  induction serves with
  | refl _ => exact start
  | ask r asked _ ih =>
    refine ih ?_
    rw [ask_session]
    exact told _ (kept r _ _ asked start)
  | aside same _ ih => exact ih (same ▸ start)

/-- Triggers are told of everything before anything else happens. -/
theorem outbox (serves : Serves P s s') (none : s.session.outbox = []) :
    s'.session.outbox = [] := by
  induction serves with
  | refl _ => exact none
  | ask r _ _ ih => exact ih (by rw [ask_session])
  | aside same _ ih => exact ih (by rw [same, none])

end Serves

/-! ### Requests in a row -/

open Session
open IdentityCache (Stable)

variable {s s' : Store σ τ}

/-- What a request leaves behind. -/
theorem ask_sound (sound : s.session.Sound) (r : Request) :
    (s.ask r).2.session.Sound ∧ Evolves Stable s.session (s.ask r).2.session ∧
      ∀ handles, (s.ask r).1 = .ok handles → ∀ h ∈ handles, (s.ask r).2.session.Holds h := by
  obtain ⟨o, u, ran, outcome, after, _⟩ := ask_cases r s
  obtain ⟨later, stable, held⟩ := Request.run_sound sound ran
  rw [outcome, after]
  exact ⟨later.told, stable, held⟩

theorem ask_spares (sound : s.session.Sound) {r : Request} {typeName : String}
    (about : r.typeName? = some typeName) : Spares typeName s.session (s.ask r).2.session := by
  obtain ⟨o, u, ran, _, after, _⟩ := ask_cases r s
  have spares : Spares typeName s.session u := Request.run_spares sound about ran
  rw [after]
  exact spares

/-- A row of requests, each about the next one of some types. -/
inductive Asks (P : Request → Prop) : List String → Store σ τ → Store σ τ → Prop
  | stop (names : List String) (s : Store σ τ) : Asks P names s s
  | ask {n : String} {rest : List String} {s s' : Store σ τ} (r : Request) (asked : P r)
    (about : r.typeName? = some n) (later : Asks P rest (s.ask r).2 s') : Asks P (n :: rest) s s'

namespace Asks

variable {P : Request → Prop} {names : List String}

theorem serves (asks : Asks P names s s') : Serves P s s' := by
  induction asks with
  | stop _ s => exact .refl s
  | ask r asked _ _ ih => exact .ask r asked ih

theorem visits (asks : Asks P names s s') (sound : s.session.Sound) :
    Visits names s.session s'.session := by
  induction asks with
  | stop names s => exact .stop names rfl
  | ask r asked about _ ih =>
    obtain ⟨later, stable, _⟩ := ask_sound sound r
    exact .visit stable (ask_spares sound about) (ih later)

end Asks

theorem deleteGroups_asks {groups : List (String × List Handle)} {o : Except Error Nat}
    (run : deleteGroups groups s = (o, s')) :
    Asks (fun r => ∃ typeName keys, r = .deleteKeys typeName keys) (groups.map (·.1)) s s' := by
  induction groups generalizing s s' o with
  | nil =>
    obtain ⟨_, rfl⟩ := pure_cases run
    exact .stop [] s
  | cons group rest ih =>
    unfold deleteGroups at run
    have asked (t : Store σ τ) {answer : Except Error Nat}
        (ran : deleteKeys group.1 (group.2.map (·.key)) s = (answer, t)) :
        t = (s.ask (.deleteKeys group.1 (group.2.map (·.key)))).2 :=
      (congrArg Prod.snd ran).symm
    rcases bind_cases run with ⟨e, failed, _⟩ | ⟨deleted, t, ran, run₁⟩
    · rw [asked s' failed]
      exact .ask _ ⟨_, _, rfl⟩ rfl (.stop _ _)
    obtain rfl := asked t ran
    refine .ask (.deleteKeys group.1 (group.2.map (·.key))) ⟨_, _, rfl⟩ rfl ?_
    rcases bind_cases run₁ with ⟨e, failed, _⟩ | ⟨others, u, ran, done⟩
    · exact ih failed
    · obtain ⟨_, rfl⟩ := pure_cases done
      exact ih ran

theorem refreshGroups_asks {groups : List (String × List Handle)} {o : Except Error Unit}
    (run : refreshGroups groups s = (o, s')) :
    Asks (fun r => ∃ typeName keys, r = .refreshKeys typeName keys) (groups.map (·.1)) s s' := by
  induction groups generalizing s s' o with
  | nil =>
    obtain ⟨_, rfl⟩ := pure_cases run
    exact .stop [] s
  | cons group rest ih =>
    unfold refreshGroups at run
    have asked (t : Store σ τ) {answer : Except Error (List Handle)}
        (ran : refreshKeys group.1 (group.2.map (·.key)) s = (answer, t)) :
        t = (s.ask (.refreshKeys group.1 (group.2.map (·.key)))).2 :=
      (congrArg Prod.snd ran).symm
    rcases bind_cases run with ⟨e, failed, _⟩ | ⟨refreshed, t, ran, run₁⟩
    · rw [asked s' failed]
      exact .ask _ ⟨_, _, rfl⟩ rfl (.stop _ _)
    · obtain rfl := asked t ran
      refine .ask (.refreshKeys group.1 (group.2.map (·.key))) ⟨_, _, rfl⟩ rfl ?_
      exact ih run₁

theorem refreshTypes_cons (typeName : String) (rest : List String) (s : Store σ τ) :
    (refreshTypes (typeName :: rest) s).2
      = (refreshTypes rest (s.ask (.refreshType typeName)).2).2 := rfl

theorem refreshTypes_asks (names : List String) (s : Store σ τ) :
    Asks (fun r => ∃ typeName, r = .refreshType typeName) names s (refreshTypes names s).2 := by
  induction names generalizing s with
  | nil => exact .stop [] s
  | cons typeName rest ih =>
    rw [refreshTypes_cons]
    exact .ask (.refreshType typeName) ⟨typeName, rfl⟩ rfl (ih _)

end Store

namespace Operation

open Session Store
open IdentityCache (Stable)

theorem nodup_grouped {β : Type} (key : β → String) (l : List β) :
    ((grouped key l).map (·.1)).Nodup := by
  have names : (grouped key l).map (·.1) = distinct (l.map key) := by
    unfold grouped
    rw [List.map_map]
    exact List.map_id _
  rw [names]
  exact nodup_distinct _

theorem nodup_scheduled {schedule : List Nat} {types : List String} (once : schedule.Nodup)
    (distinctTypes : types.Nodup) : (schedule.filterMap (types[·]?)).Nodup := by
  refine List.Pairwise.filterMap _ ?_ once
  intro i j differ n found n' found' same
  subst same
  obtain ⟨inside, _⟩ := List.getElem?_eq_some_iff.1 found
  exact differ ((List.getElem?_inj inside distinctTypes).1 (found.trans found'.symm))

/-- Apart from single requests, an operation is a row of requests about different types. -/
theorem run_asks {op : Operation} (composite : ∀ r, op ≠ .request r) (s : Store σ τ) :
    ∃ names t, names.Nodup ∧ Asks op.MayAsk names s t ∧ (op.run s).2.session = t.session := by
  cases op with
  | request r => exact absurd rfl (composite r)
  | delete h =>
    rcases ran : Store.delete h s with ⟨o, s'⟩
    have last : (Operation.run (.delete h) s).2 = s' := congrArg Prod.snd ran
    have asked : s' = (s.ask (.deleteKeys h.typeName [h.key])).2 := by
      unfold Store.delete at ran
      rcases bind_cases ran with ⟨e, failed, _⟩ | ⟨deleted, t, deletion, done⟩
      · exact (congrArg Prod.snd failed).symm
      · obtain ⟨_, rfl⟩ := pure_cases done
        exact (congrArg Prod.snd deletion).symm
    refine ⟨[h.typeName], s', by simp, ?_, by rw [last]⟩
    rw [asked]
    exact .ask _ ⟨_, _, rfl⟩ rfl (.stop _ _)
  | deleteInstances handles =>
    rcases ran : Store.deleteInstances handles s with ⟨o, s'⟩
    have last : (Operation.run (.deleteInstances handles) s).2 = s' := congrArg Prod.snd ran
    exact ⟨_, s', nodup_grouped _ handles, deleteGroups_asks ran, by rw [last]⟩
  | refreshInstances handles =>
    rcases ran : Store.refreshInstances handles s with ⟨o, s'⟩
    have last : (Operation.run (.refreshInstances handles) s).2 = s' := congrArg Prod.snd ran
    exact ⟨_, s', nodup_grouped _ handles, refreshGroups_asks ran, by rw [last]⟩
  | refresh =>
    exact ⟨_, _, OrderedMap.nodup_keys s.session.caches, refreshTypes_asks _ s, rfl⟩
  | refreshScheduled schedule once =>
    exact ⟨_, _, nodup_scheduled once (OrderedMap.nodup_keys s.session.caches),
      refreshTypes_asks _ s, rfl⟩
  | addGlobalTrigger t =>
    refine ⟨[], s, .nil, .stop _ _, ?_⟩
    show (Store.addGlobalTrigger t s).2.session = s.session
    unfold Store.addGlobalTrigger
    split <;> rfl
  | addTrigger typeName t =>
    refine ⟨[], s, .nil, .stop _ _, ?_⟩
    show (Store.addTrigger typeName t s).2.session = s.session
    unfold Store.addTrigger
    split <;> rfl
  | dropGlobalTrigger t => exact ⟨[], s, .nil, .stop _ _, rfl⟩
  | dropTrigger typeName t => exact ⟨[], s, .nil, .stop _ _, rfl⟩
  | takeFailures => exact ⟨[], s, .nil, .stop _ _, rfl⟩

/-- An operation makes the requests that it may make, and does nothing else to the session. -/
theorem serves (op : Operation) (s : Store σ τ) : Serves op.MayAsk s (op.run s).2 := by
  by_cases single : ∃ r, op = .request r
  · obtain ⟨r, rfl⟩ := single
    exact .single rfl
  · obtain ⟨_, t, _, asks, same⟩ := run_asks (fun r eq => single ⟨r, eq⟩) s
    exact asks.serves.trans (.aside same (.refl _))

/-- No operation gives a cached key another instance. -/
theorem run_stable {s : Store σ τ} (sound : s.session.Sound) (op : Operation) :
    Evolves Stable s.session (op.run s).2.session := by
  by_cases single : ∃ r, op = .request r
  · obtain ⟨r, rfl⟩ := single
    exact (ask_sound sound r).2.1
  · obtain ⟨_, t, once, asks, same⟩ := run_asks (fun r eq => single ⟨r, eq⟩) s
    rw [same]
    exact (asks.visits sound).stable once

theorem run_sound {s : Store σ τ} (sound : s.session.Sound) (op : Operation) :
    (op.run s).2.session.Sound :=
  (op.serves s).keeps sound (fun _ _ _ _ sound => (Request.run_sound sound rfl).1)
    fun _ sound => sound.told

end Operation

/-! ### Runs -/

namespace Store

open Session

/-- The store after some operations, one after the other. -/
def after (ops : List Operation) (s : Store σ τ) : Store σ τ :=
  ops.foldl (fun s op => (op.run s).2) s

omit [RowStore σ] [TriggerHost τ] in
theorem opened_session {dialect : Sql.Dialect} {settings : Settings} {rows : σ} {host : τ}
    {s : Store σ τ} (opened : openWith dialect settings rows host = .ok s) :
    s = { session := { settings, gateway := { dialect, rows } }, host } := by
  unfold openWith at opened
  cases valid : settings.validate with
  | error e => simp [valid, Except.map] at opened
  | ok _ => simpa [valid, Except.map] using opened.symm

/-- The states that a store gets into after it was opened. -/
def Reachable (s : Store σ τ) : Prop :=
  ∃ dialect settings rows host opened ops,
    openWith dialect settings rows host = .ok opened ∧ s = opened.after ops

theorem after_append (ops more : List Operation) (s : Store σ τ) :
    s.after (ops ++ more) = (s.after ops).after more := List.foldl_append

/-- What every request keeps is kept by whole runs. -/
theorem after_keeps {I : Session σ → Prop} {P : Request → Prop} {s : Store σ τ}
    {ops : List Operation} (within : ∀ op ∈ ops, ∀ r, op.MayAsk r → P r) (start : I s.session)
    (kept : ∀ r observed (u : Session σ), P r → I u → I (r.run observed u).2)
    (told : ∀ u : Session σ, I u → I { u with outbox := [] }) : I (s.after ops).session := by
  induction ops generalizing s with
  | nil => exact start
  | cons op rest ih =>
    refine ih (fun op' listed => within op' (List.mem_cons_of_mem _ listed)) ?_
    have serves := (op.serves s).mono fun r asked => within op List.mem_cons_self r asked
    exact serves.keeps start kept told

omit [RowStore σ] in
theorem sound_new (settings : Settings) (g : Gateway σ) :
    Session.Sound { settings, gateway := g } := ⟨by simp, by simp, by simp⟩

theorem after_sound {s : Store σ τ} (sound : s.session.Sound) (ops : List Operation) :
    (s.after ops).session.Sound :=
  after_keeps (P := fun _ => True) (fun _ _ _ _ => trivial) sound
    (fun _ _ _ _ sound => (Request.run_sound sound rfl).1) fun _ sound => sound.told

namespace Reachable

variable {s : Store σ τ}

theorem sound (reachable : s.Reachable) : s.session.Sound := by
  obtain ⟨dialect, settings, rows, host, opened, ops, ran, rfl⟩ := reachable
  obtain rfl := opened_session ran
  exact after_sound (sound_new settings _) ops

/-- Between operations the triggers have been told of everything. -/
theorem outbox (reachable : s.Reachable) : s.session.outbox = [] := by
  obtain ⟨dialect, settings, rows, host, opened, ops, ran, rfl⟩ := reachable
  obtain rfl := opened_session ran
  generalize start :
    ({ session := { settings, gateway := { dialect, rows } }, host } : Store σ τ) = s
  have none : s.session.outbox = [] := start ▸ rfl
  clear start ran
  induction ops generalizing s with
  | nil => exact none
  | cons op rest ih => exact ih _ ((op.serves s).outbox none)

end Reachable

end Store

/-! ### A small store

The general statements are read off on a store of gauges. A gauge has a number that callers choose
as its key, and a level. -/

namespace Sample

def gauge : EntityType where
  name := "Gauge"
  table := "gauge"
  fields := [.required "id" .bigInt, .optional "level" .double]
  key := .required "id" .bigInt
  assignment := .caller
  indexes := []
  wellFormed := {
    named := by decide +kernel
    tabled := by decide +kernel
    fields := ⟨by decide +kernel, by decide +kernel, by decide +kernel⟩
    keyDeclared := by decide +kernel
    keyRequired := rfl
    keyType := rfl
    keyInteger := by simp
    indexes := by simp }

def level (id : Int64) (level : Int) : Record :=
  OrderedMap.ofList [("id", .int id), ("level", .float (Binary64.ofInt level))]

/-- The row that stands for a gauge. -/
def row (id : Int64) (level : Int) : Row := ⟨["id", "level"], [.int id, .int (.ofInt level)]⟩

/-- A store that has just been opened; the replies are those of its row store. -/
def opened (replies : List Reply) : Store Script ScriptedHost where
  session := {
    settings := { createTables := false }
    gateway := { dialect := Sql.Dialect.ansi, rows := { replies := replies } } }
  host := {}

/-- A store in which gauges are registered. -/
def store (replies : List Reply) : Store Script ScriptedHost :=
  (opened replies).after [.request (.register gauge)]

theorem reachable_after (replies : List Reply) (ops : List Operation) :
    ((opened replies).after ops).Reachable :=
  ⟨Sql.Dialect.ansi, { createTables := false }, { replies := replies }, {}, _, ops, rfl, rfl⟩

end Sample

end IdentityMap
