import IdentityMap.Proofs.Session.Pairing
import IdentityMap.Proofs.Store.Coherence
/-!
# Registering types with a store

A store keeps its two registries in lockstep, whatever runs (`Store.registries_in_lockstep`): a type
has a cache if and only if it has a table. So no operation ever finds a cache without a table, an
operation on one unregistered type stops before it has done anything, and a registration that fails
has changed neither registry (`Store.RegistersInStep`).
-/

namespace IdentityMap

variable {σ τ : Type} [RowStore σ] [TriggerHost τ]

/-! ### Registering on paired registries -/

namespace Session

variable {s : Session σ} {t : EntityType}

/-- The ways in which a registration ends if the registries are paired. -/
inductive Registering (s : Session σ) (t : EntityType) : Except Error Unit → Session σ → Prop
  | taken (registered : s.caches.contains t.name = true) :
    Registering s t (.error (.duplicateType t.name)) s
  | untabled (free : s.caches.get? t.name = none) (untabled : s.settings.createTables = false) :
    Registering s t (.ok ()) (s.enrolled t)
  | lacking (index : Index) (free : s.caches.get? t.name = none)
    (tabled : s.settings.createTables = true)
    (lacking : t.indexes.find? s.gateway.dialect.lacks = some index) :
    Registering s t (.error (s.gateway.dialect.indexRefusal index)) s
  | uncreated (e : Error) (g : Gateway σ) (free : s.caches.get? t.name = none)
    (expressible : t.indexes.find? s.gateway.dialect.lacks = none)
    (failed : Access.executeAll (s.gateway.dialect.schemaStatements ⟨t⟩) s.gateway
      = (.error e, g)) :
    Registering s t (.error e) { s with gateway := g }
  | created (g : Gateway σ) (free : s.caches.get? t.name = none)
    (expressible : t.indexes.find? s.gateway.dialect.lacks = none)
    (ran : Access.executeAll (s.gateway.dialect.schemaStatements ⟨t⟩) s.gateway = (.ok (), g)) :
    Registering s t (.ok ()) ({ s with gateway := g }.enrolled t)

theorem register_registering (paired : s.Paired) (t : EntityType) {o : Except Error Unit}
    {s' : Session σ} (run : register t s = (o, s')) : Registering s t o s' := by
  cases free : s.caches.get? t.name with
  | some c =>
    have registered : s.caches.contains t.name = true := by simp [OrderedMap.contains, free]
    rw [register_of_registered registered] at run
    cases run
    exact .taken registered
  | none =>
    have noTable := paired.unmapped free
    cases tabled : s.settings.createTables with
    | false =>
      rw [register_untabled free noTable tabled] at run
      cases run
      exact .untabled free tabled
    | true =>
      cases lacking : t.indexes.find? s.gateway.dialect.lacks with
      | some index =>
        rw [register_uncreated free tabled (TableMapping.createSchema_of_lacking lacking)] at run
        cases run
        exact .lacking index free tabled lacking
      | none =>
        have creation := TableMapping.createSchema_of_expressible lacking
        rcases ran : Access.executeAll (s.gateway.dialect.schemaStatements ⟨t⟩) s.gateway with
          ⟨e | _, g⟩ <;> rw [ran] at creation
        · rw [register_uncreated free tabled creation] at run
          cases run
          exact .uncreated e g free lacking ran
        · rw [register_created free tabled noTable creation] at run
          cases run
          exact .created g free lacking ran

namespace Registering

variable {o : Except Error Unit} {s' : Session σ}

theorem paired (ends : Registering s t o s') (paired : s.Paired) : s'.Paired := by
  cases ends with
  | taken | lacking => exact paired
  | untabled => exact paired.enrolled t
  | uncreated => exact paired
  | created g => exact Paired.enrolled (show Paired { s with gateway := g } from paired) t

/-- What keeps a table from being created is an index or the row store. -/
theorem mapped (ends : Registering s t o s') (reports : RowStore.ReportsBackend σ) (n : String) :
    o ≠ .error (.unmappedType n) := by
  rintro rfl
  cases ends with
  | uncreated e g free expressible failed => cases Access.executeAll_isBackend reports failed

end Registering

end Session

/-! ### Requests -/

/-- The one type that a request needs to be registered, if there is one. -/
def Request.needs? : Request → Option String
  | register _ => none
  | r => r.typeName?

namespace Request

variable {s : Session σ}

/-- Every request keeps the registries paired, and none misses a table. -/
theorem run_orderly (reports : RowStore.ReportsBackend σ) (paired : s.Paired) (r : Request)
    (observed : String → Bool) :
    (r.run observed s).2.Paired ∧ ∀ n, (r.run observed s).1 ≠ .error (.unmappedType n) := by
  have viewed {α : Type} {w : Work σ α} (instances : α → List Handle)
      (ends : (w s).2.Paired ∧ ∀ n, (w s).1 ≠ .error (.unmappedType n)) :
      (Session.instancesIn instances (w s)).2.Paired ∧
        ∀ n, (Session.instancesIn instances (w s)).1 ≠ .error (.unmappedType n) := by
    refine ⟨ends.1, fun n failed => ends.2 n ?_⟩
    cases outcome : (w s).1 with
    | error e => simpa [Session.instancesIn, outcome, Except.map] using failed
    | ok a => simp [Session.instancesIn, outcome, Except.map] at failed
  have orderly {α : Type} {w : Work σ α} (orderly : Session.Orderly w) :
      (w s).2.Paired ∧ ∀ n, (w s).1 ≠ .error (.unmappedType n) :=
    ⟨(orderly s paired).1.paired paired, (orderly s paired).2⟩
  cases r with
  | register t =>
    have ends := Session.register_registering paired t rfl
    exact viewed _ ⟨ends.paired paired, ends.mapped reports⟩
  | get typeName key policy => exact viewed _ (orderly (.get reports typeName key policy))
  | getSome typeName keys policy => exact orderly (.getSome reports typeName keys policy)
  | getAll typeName policy => exact orderly (.getAll reports typeName policy)
  | getSize typeName policy => exact viewed _ (orderly (.getSize reports typeName policy))
  | persist d => exact viewed _ (orderly (.persist reports d))
  | persistAll drafts => exact orderly (.persistAll reports drafts)
  | deleteKeys typeName keys =>
    exact viewed _ (orderly (.deleteKeys reports (observed typeName) typeName keys))
  | deleteAll typeName => exact viewed _ (orderly (.deleteAll reports typeName))
  | refreshKeys typeName keys => exact orderly (.getSome reports typeName keys .forceRefresh)
  | refreshType typeName => exact viewed _ (orderly (.refreshType reports typeName))

/-- A request that needs a registered type does nothing without it. -/
theorem run_unknown {r : Request} {n : String} (needs : r.needs? = some n)
    (unknown : s.caches.get? n = none) (observed : String → Bool) :
    r.run observed s = (.error (.unregisteredType n), s) := by
  have stops {α : Type} (f : IdentityCache × TableMapping → Work σ α) :
      (Work.resolve n >>= f) s = (.error (.unregisteredType n), s) :=
    bind_of_error (Work.resolve_unregistered unknown)
  have viewed {α : Type} {w : Work σ α} (instances : α → List Handle)
      (stopped : w s = (.error (.unregisteredType n), s)) :
      Session.instancesIn instances (w s) = (.error (.unregisteredType n), s) := by
    rw [stopped]
    rfl
  cases r <;> cases needs
  case get key policy => exact viewed _ (bind_of_error (stops _))
  case getSome | getAll | refreshKeys => exact stops _
  case getSize | persist | deleteKeys | deleteAll | refreshType => exact viewed _ (stops _)

end Request

/-! ### Operations -/

namespace Dispatcher

theorem plain_addGlobal (d : Dispatcher) (t : Trigger) : Plain (d.addGlobal t) := by
  unfold addGlobal
  repeat' split
  all_goals first
    | exact Plain.error_iff.2 rfl
    | exact .ok _

theorem plain_addForType (d : Dispatcher) (typeName : String) (t : Trigger) :
    Plain (d.addForType typeName t) := by
  unfold addForType
  repeat' split
  all_goals first
    | exact Plain.error_iff.2 rfl
    | exact .ok _

end Dispatcher

namespace Store

variable {α β : Type}

/-- However the action runs on paired registries, they stay paired, and no table is missing. -/
def Orderly (a : Action σ τ α) : Prop :=
  ∀ s, s.session.Paired → (a s).2.session.Paired ∧ ∀ n, (a s).1 ≠ .error (.unmappedType n)

namespace Orderly

omit [RowStore σ] [TriggerHost τ] in
theorem pure (a : α) : Orderly (Pure.pure a : Action σ τ α) :=
  fun _ paired => ⟨paired, fun _ impossible => nomatch impossible⟩

omit [RowStore σ] [TriggerHost τ] in
theorem bind {a : Action σ τ α} {f : α → Action σ τ β} (first : Orderly a)
    (next : ∀ x, Orderly (f x)) : Orderly (a >>= f) := by
  intro s paired
  have started := first s paired
  rcases ran : a s with ⟨e | x, t⟩ <;> rw [ran] at started
  · rw [bind_of_error ran]
    exact ⟨started.1, fun n failed => started.2 n (congrArg Except.error (Except.error.inj failed))⟩
  · rw [bind_of_ok ran]
    exact next x t started.1

omit [RowStore σ] in
theorem perform {w : Work σ α} (orderly : Session.Orderly w) :
    Orderly (Store.perform w : Action σ τ α) := by
  intro s paired
  obtain ⟨same, mapped⟩ := orderly s.session paired
  refine ⟨?_, mapped⟩
  show (deliver { s with session := (w s.session).2 }).session.Paired
  rw [deliver_session]
  exact same.paired paired

omit [RowStore σ] [TriggerHost τ] in
theorem addGlobalTrigger (t : Trigger) :
    Orderly (Store.addGlobalTrigger t : Action σ τ Bool) := by
  intro s paired
  have plain := s.dispatcher.plain_addGlobal t
  unfold Store.addGlobalTrigger
  split <;> rename_i outcome
  · exact ⟨paired, fun n failed => plain.not_unmapped n (outcome.trans (by cases failed; rfl))⟩
  · exact ⟨paired, fun _ impossible => nomatch impossible⟩

omit [RowStore σ] [TriggerHost τ] in
theorem addTrigger (typeName : String) (t : Trigger) :
    Orderly (Store.addTrigger typeName t : Action σ τ Bool) := by
  intro s paired
  have plain := s.dispatcher.plain_addForType typeName t
  unfold Store.addTrigger
  split <;> rename_i outcome
  · refine ⟨paired, fun n failed => ?_⟩
    cases failed
    cases cached : s.session.caches.get? typeName with
    | none => simp [Store.cache, Work.cache_eq_error cached, Except.bind] at outcome
    | some c =>
      rw [Store.cache, Work.cache_eq_ok.2 cached] at outcome
      exact plain.not_unmapped n outcome
  · exact ⟨paired, fun _ impossible => nomatch impossible⟩

variable (reports : RowStore.ReportsBackend σ)

include reports

theorem deleteKeys (typeName : String) (keys : List EntityKey) :
    Orderly (Store.deleteKeys typeName keys : Action σ τ Nat) :=
  fun s => perform (.deleteKeys reports (s.dispatcher.hasTriggers typeName) typeName keys) s

theorem deleteGroups (groups : List (String × List Handle)) :
    Orderly (Store.deleteGroups groups : Action σ τ Nat) := by
  induction groups with
  | nil => exact .pure 0
  | cons group rest ih => exact (deleteKeys reports _ _).bind fun _ => ih.bind fun _ => .pure _

theorem refreshGroups (groups : List (String × List Handle)) :
    Orderly (Store.refreshGroups groups : Action σ τ Unit) := by
  induction groups with
  | nil => exact .pure ()
  | cons group rest ih =>
    exact (perform (.getSome reports _ _ .forceRefresh)).bind fun _ => ih

end Orderly

theorem refreshTypes_orderly (reports : RowStore.ReportsBackend σ) (names : List String)
    {s : Store σ τ} (paired : s.session.Paired) :
    (refreshTypes names s).2.session.Paired ∧
      ∀ n, .error (.unmappedType n) ∉ (refreshTypes names s).1 := by
  induction names generalizing s with
  | nil => exact ⟨paired, fun _ => List.not_mem_nil⟩
  | cons typeName rest ih =>
    have first := Orderly.perform (τ := τ) (.refreshType reports typeName) s paired
    obtain ⟨later, mapped⟩ := ih first.1
    refine ⟨later, fun n listed => ?_⟩
    rcases List.mem_cons.1 listed with failed | listed
    · exact first.2 n failed.symm
    · exact mapped n listed

/-- The first error is one of the outcomes. -/
theorem error_mem_of_firstError {outcomes : List (Except Error Unit)} {e : Error}
    (failed : firstError outcomes = .error e) : .error e ∈ outcomes := by
  induction outcomes with
  | nil => cases failed
  | cons o rest ih =>
    rcases o with e₁ | _
    · cases failed
      exact List.mem_cons_self
    · exact List.mem_cons_of_mem _ (ih failed)

omit [RowStore σ] in
/-- Work that stops before it has done anything leaves the store as it is. -/
theorem perform_stopped {w : Work σ α} {s : Store σ τ} {e : Error}
    (stopped : w s.session = (.error e, s.session)) (delivered : s.session.outbox = []) :
    (perform w : Action σ τ α) s = (.error e, s) := by
  simp only [perform, stopped, deliver, delivered, List.foldl_nil]
  rw [← delivered]

/-- A request without events leaves triggers alone. -/
theorem ask_untold {r : Request} {s : Store σ τ} {o : Except Error (List Handle)} {u : Session σ}
    (ran : r.run s.dispatcher.hasTriggers s.session = (o, u)) (untold : u.outbox = []) :
    s.ask r = (o, { s with session := u }) := by
  have same : { u with outbox := [] } = u := by rw [← untold]
  rw [ask_eq, dispatched, ran, untold, same]
  rfl

end Store

/-- The one type that an operation needs to be registered, if there is one. -/
def Operation.needs? : Operation → Option String
  | request r => r.needs?
  | delete h => some h.typeName
  | addTrigger typeName _ => some typeName
  | _ => none

namespace Operation

variable {s : Store σ τ}

/-- No operation finds a cache without its table. -/
theorem run_mapped (reports : RowStore.ReportsBackend σ) (paired : s.session.Paired)
    (op : Operation) (n : String) : (op.run s).1 ≠ .error (.unmappedType n) := by
  have silent {α : Type} {a : Action σ τ α} (orderly : Store.Orderly a) :
      ((a s).1.map fun _ => ([] : List Handle)) ≠ .error (.unmappedType n) := by
    intro failed
    cases outcome : (a s).1 with
    | error e => exact (orderly s paired).2 n (by simpa [outcome, Except.map] using failed)
    | ok x => simp [outcome, Except.map] at failed
  cases op with
  | request r =>
    obtain ⟨o, u, ran, outcome, _⟩ := Store.ask_cases r s
    have mapped := (r.run_orderly reports paired s.dispatcher.hasTriggers).2 n
    rw [ran, ← outcome] at mapped
    exact mapped
  | delete h =>
    exact silent ((Store.Orderly.deleteKeys reports h.typeName [h.key]).bind fun _ => .pure _)
  | deleteInstances handles => exact silent (.deleteGroups reports _)
  | refreshInstances handles => exact silent (.refreshGroups reports _)
  | refresh =>
    refine silent (a := Store.refresh) fun s paired => ?_
    obtain ⟨later, mapped⟩ := Store.refreshTypes_orderly reports s.session.caches.keys paired
    exact ⟨later, fun n failed => mapped n (Store.error_mem_of_firstError failed)⟩
  | refreshScheduled schedule once =>
    refine silent (a := Store.refreshScheduled schedule) fun s paired => ?_
    obtain ⟨later, mapped⟩ := Store.refreshTypes_orderly reports
      (schedule.filterMap (s.session.caches.keys[·]?)) paired
    refine ⟨later, fun n failed => ?_⟩
    unfold Store.refreshScheduled at failed
    dsimp only at failed
    cases first : Store.firstError (Store.refreshTypes
        (schedule.filterMap (s.session.caches.keys[·]?)) s).1 with
    | error e =>
      rw [first] at failed
      cases failed
      exact mapped n (Store.error_mem_of_firstError first)
    | ok _ =>
      rw [first] at failed
      simp only [Except.bind] at failed
      split at failed <;> cases failed
  | addGlobalTrigger t => exact silent (.addGlobalTrigger t)
  | addTrigger typeName t => exact silent (.addTrigger typeName t)
  | dropGlobalTrigger t => exact fun impossible => nomatch impossible
  | dropTrigger typeName t => exact fun impossible => nomatch impossible
  | takeFailures => exact fun impossible => nomatch impossible

/-- An operation that needs a registered type does nothing without it. -/
theorem run_unknown {op : Operation} {n : String} (needs : op.needs? = some n)
    (unknown : s.session.caches.get? n = none) (delivered : s.session.outbox = []) :
    op.run s = (.error (.unregisteredType n), s) := by
  cases op with
  | request r => exact Store.ask_untold (Request.run_unknown needs unknown _) delivered
  | delete h =>
    cases needs
    have deletion : Store.deleteKeys h.typeName [h.key] s = (.error (.unregisteredType _), s) :=
      Store.perform_stopped (bind_of_error (Work.resolve_unregistered unknown)) delivered
    have stopped : Store.delete h s = (.error (.unregisteredType _), s) := bind_of_error deletion
    simp only [run, stopped]
    rfl
  | addTrigger typeName t =>
    cases needs
    have stopped : Store.addTrigger n t s = (.error (.unregisteredType n), s) := by
      unfold Store.addTrigger
      rw [Store.cache, Work.cache_eq_error unknown]
      rfl
    simp only [run, stopped]
    rfl
  | _ => cases needs

end Operation

/-! ### Whole runs -/

namespace Store

variable {s : Store σ τ}

theorem Reachable.paired (reports : RowStore.ReportsBackend σ) (reachable : s.Reachable) :
    s.session.Paired := by
  obtain ⟨dialect, settings, rows, host, opened, ops, ran, rfl⟩ := reachable
  obtain rfl := opened_session ran
  exact after_keeps (P := fun _ => True) (fun _ _ _ _ => trivial) (Session.paired_new settings _)
    (fun r observed _ _ paired => (r.run_orderly reports paired observed).1) fun _ paired => paired

/-- How a store answers to the registration of a type. What a registration fails with is one of
three things, and each of them leaves both registries alone. -/
structure RegistersInStep (t : EntityType) (s : Store σ τ) : Prop where
  registered : ∀ handles, (s.ask (.register t)).1 = .ok handles →
    s.session.caches.contains t.name = false ∧
      (s.ask (.register t)).2.session.caches = s.session.caches.insert t.name (.new t) ∧
      (s.ask (.register t)).2.session.catalog = s.session.catalog.insert t.name ⟨t⟩
  failed : ∀ e, (s.ask (.register t)).1 = .error e →
    (s.ask (.register t)).2.session.caches = s.session.caches ∧
      (s.ask (.register t)).2.session.catalog = s.session.catalog ∧
      (e = .duplicateType t.name ∨ (∃ dialect feature, e = .unsupported dialect feature) ∨
        e.isBackend = true)
  duplicate_iff : ∀ n, (s.ask (.register t)).1 = .error (.duplicateType n) ↔
    n = t.name ∧ s.session.caches.contains t.name = true
  /-- A name that is taken leads to no call, and nothing changes. -/
  duplicate : ∀ n, (s.ask (.register t)).1 = .error (.duplicateType n) →
    (s.ask (.register t)).2 = s
  unsupported_iff :
    (∃ dialect feature, (s.ask (.register t)).1 = .error (.unsupported dialect feature)) ↔
      s.session.caches.contains t.name = false ∧ s.session.settings.createTables = true ∧
        s.session.gateway.dialect.clusteredIndexes = false ∧
        ∃ index ∈ t.indexes, index.clustered = true
  /-- An index that cannot be expressed is named; it leads to no call, and nothing changes. -/
  unsupported : ∀ dialect feature,
    (s.ask (.register t)).1 = .error (.unsupported dialect feature) →
      (s.ask (.register t)).2 = s ∧ dialect = s.session.gateway.dialect.name ∧
        ∃ index ∈ t.indexes, index.clustered = true ∧
          feature = "clustered index '" ++ index.name ++ "'"

/-- An index that the dialect lacks is clustered, and the dialect has no clustered indexes. -/
theorem find?_lacks_isSome {d : Sql.Dialect} {indexes : List Index} :
    (indexes.find? d.lacks).isSome = true ↔
      d.clusteredIndexes = false ∧ ∃ index ∈ indexes, index.clustered = true := by
  simp only [List.find?_isSome, Sql.Dialect.lacks, Bool.and_eq_true, Bool.not_eq_true']
  constructor
  · rintro ⟨index, listed, clustered, lacking⟩
    exact ⟨lacking, index, listed, clustered⟩
  · rintro ⟨lacking, index, listed, clustered⟩
    exact ⟨index, listed, clustered, lacking⟩

/-- Asking for a registration is registering. -/
theorem ask_register (t : EntityType) {o : Except Error Unit} {u : Session σ}
    (ran : Session.register t s.session = (o, u)) (untold : u.outbox = []) :
    s.ask (.register t) = (o.map fun _ => [], { s with session := u }) := by
  refine ask_untold ?_ untold
  simp only [Request.run, ran]
  rfl

theorem registersInStep (reports : RowStore.ReportsBackend σ) (paired : s.session.Paired)
    (delivered : s.session.outbox = []) (t : EntityType) : s.RegistersInStep t := by
  rcases ran : Session.register t s.session with ⟨o, u⟩
  have ends := Session.register_registering paired t ran
  have untold : u.outbox = [] := by
    rw [← delivered]
    cases ends <;> rfl
  have asked := ask_register t ran untold
  have expressed (none : t.indexes.find? s.session.gateway.dialect.lacks = none) :
      ¬ (s.session.gateway.dialect.clusteredIndexes = false ∧
        ∃ index ∈ t.indexes, index.clustered = true) := by
    rw [← find?_lacks_isSome, none]
    simp
  have free_iff : s.session.caches.contains t.name = false ↔
      s.session.caches.get? t.name = none := by simp [OrderedMap.contains]
  cases ends with
  | taken registered =>
    constructor
    case duplicate_iff => exact fun n => by simpa [asked, Except.map, registered] using eq_comm
    all_goals simp [asked, Except.map, registered]
  | untabled free untabled =>
    constructor <;> simp [asked, Except.map, free_iff.2 free, untabled, Session.enrolled]
  | lacking index free tabled lacking =>
    obtain ⟨unclustered, _⟩ := find?_lacks_isSome.1 (Option.isSome_of_eq_some lacking)
    have listed := List.mem_of_find?_eq_some lacking
    have clustered : index.clustered = true := by
      have found := List.find?_some lacking
      simpa [Sql.Dialect.lacks, unclustered] using found
    constructor
    case unsupported_iff =>
      simp only [asked, Except.map, Sql.Dialect.indexRefusal, free_iff.2 free, tabled, unclustered]
      simpa using ⟨index, listed, clustered⟩
    case unsupported =>
      rintro dialect feature failed
      simp only [asked, Except.map, Sql.Dialect.indexRefusal, Except.error.injEq,
        Error.unsupported.injEq] at failed
      obtain ⟨rfl, rfl⟩ := failed
      exact ⟨by rw [asked], rfl, index, listed, clustered, rfl⟩
    all_goals simp [asked, Except.map, free_iff.2 free, Sql.Dialect.indexRefusal]
  | uncreated e g free expressible failed =>
    obtain ⟨operation, reason, rfl⟩ := Error.eq_of_isBackend
      (Access.executeAll_isBackend reports failed)
    constructor
    case unsupported_iff =>
      simpa [asked, Except.map] using fun _ _ => not_and.1 (expressed expressible)
    all_goals simp [asked, Except.map, free_iff.2 free, Error.isBackend]
  | created g free expressible ran =>
    constructor
    case unsupported_iff =>
      simpa [asked, Except.map] using fun _ _ => not_and.1 (expressed expressible)
    all_goals simp [asked, Except.map, free_iff.2 free, Session.enrolled]

/-- In every state that a store gets into, the names with a cache are the names with a table, both
for the same type. A registration says whether the name is taken or an index cannot be expressed
before it makes a call, and one that fails has changed neither registry. So no operation misses a
table, and one that needs a registered type does nothing at all without it. -/
theorem registries_in_lockstep (reports : RowStore.ReportsBackend σ) (reachable : s.Reachable) :
    (∀ n, s.session.catalog.contains n = s.session.caches.contains n) ∧
    (∀ n c, s.session.caches.get? n = some c →
      s.session.catalog.get? n = some ⟨c.entityType⟩ ∧ c.entityType.name = n) ∧
    (∀ t, s.RegistersInStep t) ∧
    (∀ kind : Sql.DialectKind, kind.dialect.clusteredIndexes = false ↔ kind ≠ .sqlServer) ∧
    (∀ (op : Operation) n, (op.run s).1 ≠ .error (.unmappedType n)) ∧
    ∀ (op : Operation) n, op.needs? = some n → s.session.caches.contains n = false →
      op.run s = (.error (.unregisteredType n), s) := by
  have paired := reachable.paired reports
  refine ⟨paired.contains, fun n c cached => ⟨?_, reachable.sound.named n c cached⟩,
    registersInStep reports paired reachable.outbox, ?_, Operation.run_mapped reports paired, ?_⟩
  · rw [paired n, cached, Option.map_some]
  · intro kind
    cases kind <;> decide
  · intro op n needs unknown
    exact Operation.run_unknown needs (by simpa [OrderedMap.contains] using unknown)
      reachable.outbox

end Store

/-! ### A store with one type -/

namespace Sql.Memory

theorem isBackend_attempt {α : Type} {call : Memory → Except Error (α × Memory)} {m : Memory}
    {e : Error} (calls : ∀ m e, call m = .error e → e = refusal)
    (failed : (attempt call m).1 = .error e) : e.isBackend = true := by
  unfold attempt at failed
  dsimp only at failed
  split at failed
  · cases failed
    rfl
  · split at failed
    · rename_i refused
      cases failed
      rw [calls _ _ refused]
      rfl
    · cases failed

theorem answer_refused {m : Memory} {params : List Value} {command : Command} {e : Error}
    (failed : m.answer params command = .error e) : e = refusal := by
  unfold answer at failed
  repeat' split at failed
  all_goals first
    | exact (Except.error.inj failed).symm
    | cases failed

theorem generate_refused {m : Memory} {params : List Value} {command : Command} {e : Error}
    (failed : m.generate params command = .error e) : e = refusal := by
  unfold generate at failed
  dsimp only at failed
  repeat' split at failed
  all_goals first
    | exact (Except.error.inj failed).symm
    | cases failed

theorem change_refused {m : Memory} {params : List Value} {command : Command} {e : Error}
    (failed : m.change params command = .error e) : e = refusal := by
  unfold change at failed
  repeat' split at failed
  all_goals first
    | exact (Except.error.inj failed).symm
    | cases failed

theorem changeEach_refused {command : Command} {paramSets : List (List Value)} {m : Memory}
    {e : Error} (failed : changeEach command paramSets m = .error e) : e = refusal := by
  induction paramSets generalizing m with
  | nil => cases failed
  | cons params rest ih =>
    unfold changeEach at failed
    cases first : m.change params command with
    | error e₁ =>
      simp only [first] at failed
      cases failed
      exact change_refused first
    | ok done =>
      simp only [first] at failed
      cases others : changeEach command rest done.2 with
      | error e₁ =>
        simp only [others, Except.map] at failed
        cases failed
        exact ih others
      | ok more => simp [others, Except.map] at failed

/-- Memory refuses statements and fails calls as a row store should. -/
theorem reportsBackend : RowStore.ReportsBackend Memory where
  query s params rows e failed := by
    refine isBackend_attempt (fun m e refused => ?_) failed
    cases answered : m.answer params s.command with
    | error e₁ =>
      rw [answered] at refused
      cases refused
      exact answer_refused answered
    | ok found => simp [answered, Except.map] at refused
  execute s params rows e failed := isBackend_attempt (fun _ _ => change_refused) failed
  executeBatch s paramSets rows e failed := isBackend_attempt (fun _ _ => changeEach_refused) failed
  insertReturningKey s params rows e failed :=
    isBackend_attempt (fun _ _ => generate_refused) failed

end Sql.Memory

namespace Sample

/-- Gauges under another name. -/
def spareGauge : EntityType where
  toSchema := { gauge.toSchema with name := "SpareGauge" }
  wellFormed := { gauge.wellFormed with named := by decide +kernel }

/-- Gauges with an index that keeps the rows of the table in its order. -/
def arrangedGauge : EntityType where
  name := "ArrangedGauge"
  table := "gauge"
  fields := gauge.fields
  key := gauge.key
  assignment := .caller
  indexes := [⟨"by_level", ["level"], false, true⟩]
  wellFormed := {
    gauge.wellFormed with
    named := by decide +kernel
    indexes := by
      intro index listed
      obtain rfl := List.mem_singleton.1 listed
      exact ⟨by decide, by decide, by decide⟩ }

end Sample

namespace Store

/-- Gauges are registered, and the table of another type could not be created. -/
theorem registries_in_lockstep_gauges :
    let s := (Sample.memorising [false, true]).after [
      .request (.register Sample.gauge), .request (.register Sample.spareGauge)]
    s.session.caches.keys = ["Gauge"] ∧ s.session.catalog.contains "SpareGauge" = false ∧
    s.ask (.register Sample.gauge) = (.error (.duplicateType "Gauge"), s) ∧
    s.ask (.register Sample.arrangedGauge)
      = (.error (.unsupported "ansi" "clustered index 'by_level'"), s) ∧
    Operation.run (.request (.get "SpareGauge" (.int 1) .cacheFirst)) s
      = (.error (.unregisteredType "SpareGauge"), s) := by
  intro s
  have reachable : s.Reachable := Sample.reachable_memorising _ _
  obtain ⟨paired, -, registers, -, -, unknown⟩ :=
    registries_in_lockstep Sql.Memory.reportsBackend reachable
  have spare : s.session.caches.contains "SpareGauge" = false := by decide +kernel
  have taken := ((registers Sample.gauge).duplicate_iff "Gauge").2 ⟨rfl, by decide +kernel⟩
  have lacking : (s.ask (.register Sample.arrangedGauge)).1
      = .error (.unsupported "ansi" "clustered index 'by_level'") := by decide +kernel
  refine ⟨by decide +kernel, (paired "SpareGauge").trans spare, ?_, ?_, ?_⟩
  · exact Prod.ext taken ((registers Sample.gauge).duplicate "Gauge" taken)
  · exact Prod.ext lacking ((registers Sample.arrangedGauge).unsupported _ _ lacking).1
  · exact unknown (.request (.get "SpareGauge" (.int 1) .cacheFirst)) "SpareGauge" rfl spare

end Store

end IdentityMap
