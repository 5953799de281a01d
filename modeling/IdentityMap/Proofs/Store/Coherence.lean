import IdentityMap.Proofs.Coherence.Persist
import IdentityMap.Proofs.Sql.Memory
import IdentityMap.Proofs.Store.Operation
/-!
# Coherence over whole runs

With a faithful row store that nobody else writes to, the caches mirror the tables through any run
(`Store.coherence_over_runs`): what is cached under a key normalises to what the row with this key
decodes to, and a synced cache has the keys of all rows. Calls of the row store may fail at any
point; a call that fails has done nothing, and the row store is always changed before a cache is.
-/

namespace IdentityMap

open Sql

variable {σ τ : Type} [RowStore σ] [TriggerHost τ] {tables : σ → Tables}
  {types : EntityType → Prop}

/-! ### Requests -/

namespace Request

/-- The request registers a type that has its own table, and brings values that storage keeps. -/
def Admissible (types : EntityType → Prop) : Request → Prop
  | register t => types t
  | persist d => d.values.isKept = true
  | persistAll drafts => ∀ d ∈ drafts, d.values.isKept = true
  | _ => True

open Session

theorem run_coherent (hosts : Hosts tables types) {s s' : Session σ}
    (coherent : s.Coherent tables types) {r : Request} (admissible : r.Admissible types)
    {observed : String → Bool} {o : Except Error (List Handle)}
    (run : r.run observed s = (o, s')) : s'.Coherent tables types := by
  have sound := coherent.toSound
  cases r with
  | register t =>
    obtain ⟨_, ran, _⟩ := instancesIn_cases run
    exact (register_ends ran).coherent coherent hosts admissible
  | get typeName key policy =>
    obtain ⟨_, ran, _⟩ := instancesIn_cases run
    exact (get_ends sound ran).coherent coherent hosts
  | getSome typeName keys policy => exact (getSome_ends sound run).coherent coherent hosts
  | getAll typeName policy => exact (getAll_ends sound run).coherent coherent hosts
  | getSize typeName policy =>
    obtain ⟨_, ran, _⟩ := instancesIn_cases run
    exact (getSize_ends sound ran).coherent coherent hosts
  | persist d =>
    obtain ⟨_, ran, _⟩ := instancesIn_cases run
    exact persist_coherent coherent hosts admissible ran
  | persistAll drafts => exact persistAll_coherent coherent hosts admissible run
  | deleteKeys typeName keys =>
    obtain ⟨_, ran, _⟩ := instancesIn_cases run
    rcases deleteKeys_cases sound ran with ⟨_, _, looks⟩ | ⟨c, cached, named, ends⟩
    · exact coherent.looks hosts looks
    · exact ends.coherent coherent hosts (by rw [named, cached])
  | deleteAll typeName =>
    obtain ⟨_, ran, _⟩ := instancesIn_cases run
    rcases deleteAll_cases sound ran with ⟨_, _, looks⟩ | ⟨c, _, _, ends⟩
    · exact coherent.looks hosts looks
    · exact ends.coherent coherent hosts
  | refreshKeys typeName keys => exact (refreshKeys_ends sound run).coherent coherent hosts
  | refreshType typeName =>
    obtain ⟨_, ran, _⟩ := instancesIn_cases run
    exact (refreshType_ends sound ran).coherent coherent hosts

end Request

/-! ### Runs -/

namespace Store

open Session

theorem after_coherent (hosts : Hosts tables types) {s : Store σ τ}
    (coherent : s.session.Coherent tables types) {ops : List Operation}
    (admissible : ∀ op ∈ ops, ∀ r, op.MayAsk r → r.Admissible types) :
    (s.after ops).session.Coherent tables types :=
  after_keeps admissible coherent
    (fun _ _ _ fits coherent => Request.run_coherent hosts coherent fits rfl)
    fun _ coherent => coherent.told

omit [RowStore σ] in
theorem coherent_new (settings : Settings) {g : Gateway σ} (keyed : Keyed types (tables g.rows)) :
    Session.Coherent tables types { settings, gateway := g } :=
  ⟨sound_new settings g, by simp, keyed, by simp⟩

/-- Through any run, whatever is cached is what the row store holds under its key, and a synced
cache lacks no key of its table. -/
theorem coherence_over_runs (hosts : Hosts tables types) {dialect : Dialect} {settings : Settings}
    {rows : σ} {host : τ} {s : Store σ τ} (opened : openWith dialect settings rows host = .ok s)
    (keyed : Keyed types (tables rows)) {ops : List Operation}
    (admissible : ∀ op ∈ ops, ∀ r, op.MayAsk r → r.Admissible types) {typeName : String}
    {c : IdentityCache} (cached : (s.after ops).session.caches.get? typeName = some c) :
    let row? := (tables (s.after ops).session.gateway.rows).row? c.entityType.table
    (∀ key i, c.get? key = some i → ∃ cells record, row? key.stored = some cells ∧
      c.entityType.normalise i.record = .ok record ∧
      (cells.rowOf c.entityType).decode ⟨c.entityType⟩ = .ok record) ∧
    (c.synced = true → ∀ k cells, row? k = some cells →
      ∃ key i, key.stored = k ∧ c.get? key = some i) := by
  intro row?
  obtain rfl := opened_session opened
  have start : Session.Coherent tables types { settings, gateway := { dialect, rows } } :=
    coherent_new settings keyed
  have coherent := after_coherent (s := ⟨_, {}, host, [], 0, 0⟩) hosts start admissible
  have mirrors := coherent.mirrors typeName c cached
  refine ⟨fun key i found => ?_, mirrors.complete⟩
  obtain ⟨cells, present, reflects⟩ := mirrors.cached key i found
  obtain ⟨record, normal, decoded⟩ := reflects.normalise
  exact ⟨cells, record, present, normal, decoded⟩

end Store

/-! ### Gauges and alarms in memory -/

namespace Sample

/-- Memory hosts a type with large keys and without types of fields that it does not know. -/
theorem hosts_only {t : EntityType} (large : t.key.type = .bigInt)
    (known : ∀ f ∈ t.fields, ∀ name, f.type ≠ .other name) : Hosts Memory.tables (· = t) where
  faithful := Memory.faithful
  apart _ _ here there _ := here.trans there.symm
  known := by
    rintro _ rfl
    exact known
  generates := by
    rintro _ rfl s columns count key params rows next reported command ran
    have inserted := Memory.faithful.insertReturningKey _ _ _ _ _ ran
    simp only [Outcome, command] at inserted
    obtain ⟨_, n, _, rfl, _⟩ := inserted
    have fits : ScalarType.fits 63 n = true := by
      have lower := n.le_toInt
      have upper := n.toInt_lt
      have size : Nat.pow 2 63 = 9223372036854775808 := rfl
      simp only [ScalarType.fits, size, Bool.and_eq_true, decide_eq_true_eq]
      omega
    refine ⟨.int n, ?_⟩
    rw [large]
    exact if_pos fits

theorem hosts_gauges : Hosts Memory.tables (· = gauge) := by
  refine hosts_only rfl fun f member name => ?_
  simp only [gauge, List.mem_cons, List.not_mem_nil, or_false] at member
  rcases member with rfl | rfl <;> simp [Field.required, Field.optional]

/-- An alarm goes off at a time of the day. -/
def alarm : EntityType where
  name := "Alarm"
  table := "alarm"
  fields := [.required "id" .bigInt, .required "at" .time]
  key := .required "id" .bigInt
  assignment := .caller
  indexes := []
  wellFormed := {
    named := by decide +kernel
    tabled := by decide +kernel
    fields := ⟨by decide +kernel, by decide +kernel, by decide +kernel⟩
    keyDeclared := by decide +kernel
    keyRequired := rfl
    keyType := rfl
    keyInteger := by simp
    indexes := by simp }

theorem hosts_alarms : Hosts Memory.tables (· = alarm) := by
  refine hosts_only rfl fun f member name => ?_
  simp only [alarm, List.mem_cons, List.not_mem_nil, or_false] at member
  rcases member with rfl | rfl <;> simp [Field.required]

/-- A store in front of empty memory, of which some calls fail. -/
def memorising (faults : List Bool) : Store Memory ScriptedHost where
  session := {
    settings := {}
    gateway := { dialect := Sql.Dialect.ansi, rows := ⟨fun _ => none, faults⟩ } }
  host := {}

theorem opened_memorising (faults : List Bool) : Store.openWith Dialect.ansi {}
    (⟨fun _ => none, faults⟩ : Memory) ({} : ScriptedHost) = .ok (memorising faults) := rfl

theorem reachable_memorising (faults : List Bool) (ops : List Operation) :
    ((memorising faults).after ops).Reachable :=
  ⟨_, _, _, _, _, ops, opened_memorising faults, rfl⟩

end Sample

namespace Store

/-- Three gauges are created, a change of the first one fails in the row store, the second one is
deleted, and the whole table is read. -/
theorem coherence_over_runs_gauge :
    let s := (Sample.memorising [false, false, true]).after [
      .request (.register Sample.gauge),
      .request (.persist ⟨Sample.gauge, .create, Sample.level 1 5⟩),
      .request (.persist ⟨Sample.gauge, .modify (.int 1), Sample.level 1 6⟩),
      .request (.persistAll [⟨Sample.gauge, .create, Sample.level 2 7⟩,
        ⟨Sample.gauge, .create, Sample.level 3 8⟩]),
      .request (.deleteKeys "Gauge" [.int 2]),
      .request (.getAll "Gauge" .forceRefresh)]
    ∃ c, s.session.caches.get? "Gauge" = some c ∧ c.keys = [.int 1, .int 3] ∧
      (∃ cells, (Memory.tables s.session.gateway.rows).row? "gauge" (.integer 1) = some cells ∧
        (cells.rowOf Sample.gauge).decode ⟨Sample.gauge⟩ = .ok (Sample.level 1 5)) ∧
      ∀ k cells, (Memory.tables s.session.gateway.rows).row? "gauge" k = some cells →
        ∃ key i, key.stored = k ∧ c.get? key = some i := by
  intro s
  have shown : (s.session.caches.get? "Gauge").map (fun c => (c.entityType, c.keys, c.synced,
      (c.get? (.int 1)).map (·.record)))
      = some (Sample.gauge, [.int 1, .int 3], true, some (Sample.level 1 5)) := by decide +kernel
  obtain ⟨c, cached, same⟩ := Option.map_eq_some_iff.1 shown
  simp only [Prod.mk.injEq, Option.map_eq_some_iff] at same
  obtain ⟨type, keys, synced, i, found, record⟩ := same
  have kept : (Sample.level 1 5).isKept = true ∧ (Sample.level 1 6).isKept = true ∧
      (Sample.level 2 7).isKept = true ∧ (Sample.level 3 8).isKept = true := by decide +kernel
  have opened : openWith Dialect.ansi {} (⟨fun _ => none, [false, false, true]⟩ : Memory)
      ({} : ScriptedHost) = .ok (Sample.memorising [false, false, true]) := rfl
  obtain ⟨mirrored, complete⟩ := coherence_over_runs Sample.hosts_gauges opened
    (fun _ _ _ none => by cases none) (by simp [Operation.MayAsk, Request.Admissible, kept])
    cached
  have normal : Sample.gauge.normalise (Sample.level 1 5) = .ok (Sample.level 1 5) := by
    decide +kernel
  rw [type] at mirrored complete
  obtain ⟨cells, stored, present, normal', decoded⟩ := mirrored (.int 1) i found
  rw [record, normal] at normal'
  cases normal'
  exact ⟨c, cached, keys, ⟨cells, present, decoded⟩, complete synced⟩

/-- An alarm is created for a leap second within a minute. Without a NaN anywhere, the cached record
normalises to another one than its row decodes to: the row has the text of the second after it. -/
theorem coherence_lost_by_strayLeap :
    let values : Record := OrderedMap.ofList [("id", .int 1), ("at", .time ScalarType.strayLeap)]
    let s := (Sample.memorising []).after [.request (.register Sample.alarm),
      .request (.persist ⟨Sample.alarm, .create, values⟩)]
    Hosts Memory.tables (· = Sample.alarm) ∧ values.hasNaN = false ∧
    ∃ c i cells record, s.session.caches.get? "Alarm" = some c ∧ c.get? (.int 1) = some i ∧
      (Memory.tables s.session.gateway.rows).row? "alarm" (.integer 1) = some cells ∧
      Sample.alarm.normalise i.record = .ok values ∧
      (cells.rowOf Sample.alarm).decode ⟨Sample.alarm⟩ = .ok record ∧ record ≠ values := by
  intro values s
  have shown : (s.session.caches.get? "Alarm").bind (fun c => (c.get? (.int 1)).map (·.record))
      = some values := by decide +kernel
  let second : Record :=
    OrderedMap.ofList [("id", .int 1), ("at", .time ScalarType.strayLeap.shown)]
  have stored : ((Memory.tables s.session.gateway.rows).row? "alarm" (.integer 1)).map
      (fun cells => (cells.rowOf Sample.alarm).decode ⟨Sample.alarm⟩) = some (.ok second) := by
    decide +kernel
  obtain ⟨c, cached, found⟩ := Option.bind_eq_some_iff.1 shown
  obtain ⟨i, present, same⟩ := Option.map_eq_some_iff.1 found
  obtain ⟨cells, row, decoded⟩ := Option.map_eq_some_iff.1 stored
  refine ⟨Sample.hosts_alarms, by decide +kernel, c, i, cells, second, cached, present, row, ?_,
    decoded, by decide +kernel⟩
  rw [same]
  decide +kernel

end Store

end IdentityMap
