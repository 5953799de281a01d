import IdentityMap.Proofs.Store.Coherence
/-!
# Persisted records read anew

A store caches a persisted record as the caller gave it. Reading the key anew brings the record that
the row decodes to, which is the normalised one: each value in the form of its type, and null in
each field that was left out. So a refresh right after persisting keeps the instance and leaves a
normal record as it is; another one it replaces by the normalised record and tells of an update
(`Store.refresh_after_persist`), although nobody has changed anything
(`Store.refresh_tells_of_left_out_field`).
-/

namespace IdentityMap

open Sql

variable {σ τ : Type} [RowStore σ] [TriggerHost τ] {tables : σ → Tables}

namespace Session

variable {s s' : Session σ} {t : EntityType} {h : Handle} {i : Instance}

/-! ### What persisting leaves behind -/

/-- The instance `i` of a handle is cached for its type. -/
def Caches (s : Session σ) (t : EntityType) (h : Handle) (i : Instance) : Prop :=
  ∃ c, s.caches.get? h.typeName = some c ∧ c.entityType = t ∧ c.get? h.key = some i ∧
    c.handleOf i = h

/-- The instance is cached, and the row of its key stores its record, of which each field can be
decoded. -/
structure Persisted (tables : σ → Tables) (s : Session σ) (t : EntityType) (h : Handle)
    (i : Instance) : Prop where
  cached : s.Caches t h i
  keyed : Keyed (Eq t) (tables s.gateway.rows)
  stored : ∃ cells, (tables s.gateway.rows).row? t.table h.key.stored = some cells ∧
    Stores t i.record cells
  decodes : t.Decodes i.record

omit [RowStore σ] in
/-- A record that is put into the cache is the one of its handle. -/
theorem caches_of_put (sound : s.Sound) {c : IdentityCache} {key : EntityKey} {r : Record}
    {events : List Event}
    (alters : Alters s s' c.entityType.name c (c.putKeyed key r).2 events) :
    (c.putKeyed key r).1.1.key = key ∧
      s'.Caches c.entityType (c.putKeyed key r).1.1 (c.instanceAfter key r) := by
  have handle : (c.putKeyed key r).1.1 = c.handleOf (c.instanceAfter key r) := by
    rw [IdentityCache.putKeyed_fst]
  have own : (c.handleOf (c.instanceAfter key r)).key = key :=
    (sound.caches _ c alters.cached).instanceAfter_key key r
  rw [handle]
  refine ⟨own, (c.putKeyed key r).2, alters.get?_self, ?_, ?_, ?_⟩
  · exact IdentityCache.putKeyed_entityType c key r
  · rw [own, IdentityCache.get?_putKeyed_self]
  · simp [IdentityCache.handleOf, IdentityCache.typeName]

omit [RowStore σ] in
/-- A record is put into the cache, and its row is stored. -/
theorem persisted_of_put (sound : s.Sound) {c : IdentityCache} {key : EntityKey} {r : Record}
    {cells : Cells} {events : List Event}
    (keyed : Keyed (Eq c.entityType) (tables s.gateway.rows))
    (alters : Alters s s' c.entityType.name c (c.putKeyed key r).2 events)
    (carries : c.entityType.keyOf? r = some key) (stores : Stores c.entityType r cells)
    (changed : Changed (tables s.gateway.rows) (tables s'.gateway.rows) c.entityType.table
      (putRow c.entityType ((tables s.gateway.rows).row? c.entityType.table) cells))
    (decodes : c.entityType.Decodes r) :
    Persisted tables s' c.entityType (c.putKeyed key r).1.1 (c.instanceAfter key r) := by
  obtain ⟨own, cached⟩ := caches_of_put sound alters
  refine ⟨cached, changed.keyed keyed, ?_, ?_⟩
  · rw [IdentityCache.instanceAfter_record]
    refine ⟨cells, ?_, stores⟩
    rw [changed.row?, putRow, stores.cell_key carries, own, if_pos rfl]
  · rw [IdentityCache.instanceAfter_record]
    exact decodes

omit [RowStore σ] in
theorem Persisted.told (persisted : Persisted tables s t h i) :
    Persisted tables { s with outbox := [] } t h i :=
  ⟨persisted.cached, persisted.keyed, persisted.stored, persisted.decodes⟩

/-- A draft that is persisted leaves its record in the cache and in the row. -/
theorem persist_persisted (faithful : Faithful tables) (sound : s.Sound) {d : Draft}
    {c : IdentityCache} (registered : s.caches.get? d.entityType.name = some c)
    (keyed : Keyed (Eq c.entityType) (tables s.gateway.rows))
    (run : persist d s = (.ok h, s')) : ∃ i, Persisted tables s' c.entityType h i := by
  rcases persist_cases sound run with ⟨_, impossible, _⟩ | ⟨c₁, cached, named, ends⟩
  · cases impossible
  obtain rfl : c₁ = c := Option.some.inj (cached.symm.trans registered)
  rcases ends with ⟨_, ends⟩ | ⟨key, _, ends⟩
  · cases ends with
    | @inserted u record generated _ _ _ looks prepared inserted merged alters =>
      have same := faithful.reads looks.reads
      obtain ⟨cells, stores, changed⟩ := insertRow_stored faithful rfl (same ▸ keyed) inserted
      rw [same] at changed
      obtain ⟨key, carries, rfl, rfl, _⟩ := IdentityCache.mergeRecord_eq_ok merged
      exact ⟨_, persisted_of_put sound keyed alters carries stores changed
        (prepared.decodes inserted)⟩
  · cases ends with
    | @written u base met g _ _ _ begun updated present merged alters =>
      obtain ⟨cells, _, stores, changed⟩ := begun.stored faithful rfl keyed updated present
      obtain ⟨own, carries, rfl, rfl, _⟩ := IdentityCache.mergeChange_eq_ok merged
      exact ⟨_, persisted_of_put sound keyed alters carries stores changed
        fun _ => decode_of_check begun.fits⟩

/-! ### Reading a key anew -/

/-- The row store answers a query for one key of the type. -/
def Answering (s : Session σ) (t : EntityType) (key : EntityKey) : Prop :=
  ∃ statement answer rows, s.gateway.dialect.selectKeys ⟨t⟩ 1 = .ok statement ∧
    RowStore.query statement [key.toValue] s.gateway.rows = (.ok answer, rows)

/-- A refresh right after persisting answers with the same instance, which then holds the normalised
record. It tells of an update if this is another record. -/
theorem Persisted.refresh (faithful : Faithful tables) (sound : s.Sound)
    (persisted : Persisted tables s t h i)
    (known : ∀ f ∈ t.fields, ∀ name, f.type ≠ .other name) (kept : i.record.isKept = true)
    (answering : s.Answering t h.key) {o : Except Error (Option Handle)}
    (run : get h.typeName h.key .forceRefresh s = (o, s')) :
    o = .ok (some h) ∧ ∃ normal i', t.normalise i.record = .ok normal ∧ s'.Caches t h i' ∧
      i'.record = normal ∧ s'.outbox = s.outbox ++
        if Record.same normal i.record then [] else [⟨t, h.key, .updated i.record normal⟩] := by
  obtain ⟨c, cached, rfl, found, rfl⟩ := persisted.cached
  obtain ⟨cells, present, stores⟩ := persisted.stored
  obtain ⟨statement, answer, rows, produced, answered⟩ := answering
  have cacheSound := sound.caches _ c cached
  -- what the row decodes to is the normalised record, and it carries the key of the row
  have reflects := stores.reflects known (c.entityType.keeps kept) persisted.decodes
  obtain ⟨normal, normalised, decoded⟩ := reflects.normalise
  obtain ⟨n, g, fetched⟩ :=
    fetchKey_answered faithful rfl persisted.keyed present produced answered decoded
  have carries := keyOf?_decoded decoded (persisted.keyed.row_key rfl present)
  obtain ⟨c', i', merged, found', record, handle⟩ :=
    IdentityCache.mergeFetched_refresh cacheSound found carries
      (Record.same_self (hasNaN_decoded decoded)) n
  have type : c'.entityType = c.entityType :=
    (IdentityCache.mergeFetched_merged cacheSound merged).steps.entityType
  obtain ⟨rfl, alters⟩ := get_refresh sound cached fetched merged run
  refine ⟨by simp [List.replicate_succ], normal, i', normalised,
    ⟨c', alters.get?_self, type, found', ?_⟩, record, alters.outbox⟩
  rw [← handle]
  simp [IdentityCache.handleOf, IdentityCache.typeName, type]

omit [RowStore σ] in
/-- A handle of a cached instance reads the instance. -/
theorem Caches.read? (caches : s.Caches t h i) : s.caches.read? h = some i := by
  obtain ⟨c, cached, _, found, rfl⟩ := caches
  unfold CacheSet.read?
  rw [cached, Option.bind_some]
  exact IdentityCache.read?_of_cached found rfl

end Session

namespace Store

open Session

/-- After a draft was persisted whose record storage keeps, a refresh of its key answers with the
same instance. The instance then holds the normalised record. Triggers are told of an update if this
differs from the record that was persisted, and of nothing if it does not. -/
theorem refresh_after_persist (faithful : Faithful tables) {s : Store σ τ}
    (reachable : s.Reachable) {d : Draft} {c : IdentityCache}
    (registered : s.session.caches.get? d.entityType.name = some c)
    (known : ∀ f ∈ c.entityType.fields, ∀ name, f.type ≠ .other name)
    (keyed : ∀ table, tables s.session.gateway.rows c.entityType.table = some table →
      table.key = c.entityType.key.column)
    {h : Handle} (done : (s.ask (.persist d)).1 = .ok [h])
    (kept : ∀ i, (s.ask (.persist d)).2.read? h = some i → i.record.isKept = true)
    (answering : (s.ask (.persist d)).2.session.Answering c.entityType h.key) :
    let s' := (s.ask (.persist d)).2
    let refresh := Request.get h.typeName h.key .forceRefresh
    ∃ i normal i', s'.read? h = some i ∧ c.entityType.normalise i.record = .ok normal ∧
      (s'.ask refresh).1 = .ok [h] ∧ (s'.ask refresh).2.read? h = some i' ∧ i'.record = normal ∧
      s'.dispatched refresh = if Record.same normal i.record then []
        else [⟨c.entityType, h.key, .updated i.record normal⟩] := by
  intro s' refresh
  have sound := reachable.sound
  obtain ⟨o, u, ran, outcome, after, -⟩ := ask_cases (.persist d) s
  obtain ⟨answer, persisted, same⟩ := Request.instancesIn_cases ran
  rw [done, same] at outcome
  cases answer with
  | error e => cases outcome
  | ok h₁ =>
    obtain rfl : h = h₁ := by simpa [Except.map] using outcome
    have keyed : Keyed (Eq c.entityType) (tables s.session.gateway.rows) := by
      rintro _ rfl
      exact keyed
    obtain ⟨i, left⟩ := persist_persisted faithful sound registered keyed persisted
    have told : s'.session = { u with outbox := [] } := after
    -- triggers that are told of the draft change neither caches nor rows
    have left : Persisted tables s'.session c.entityType h i := told ▸ left.told
    have reads : s'.read? h = some i := left.cached.read?
    obtain ⟨o', u', ran', outcome', after', events⟩ := ask_cases refresh s'
    obtain ⟨found, looked, same'⟩ := Request.instancesIn_cases ran'
    obtain ⟨rfl, normal, i', normalised, cached', record, outbox⟩ :=
      left.refresh faithful (ask_sound sound (.persist d)).1 known (kept i reads) answering
        looked
    refine ⟨i, normal, i', reads, normalised, ?_, ?_, record, ?_⟩
    · rw [outcome', same']
      rfl
    · show (s'.ask refresh).2.session.caches.read? h = some i'
      rw [after']
      exact cached'.read?
    · rw [events, outbox, told]
      rfl

/-- A gauge that is created with a level in the form of its type is the same after a refresh. -/
theorem refresh_after_persist_gauge :
    let s := (Sample.memorising []).after [.request (.register Sample.gauge)]
    let s' := (s.ask (.persist ⟨Sample.gauge, .create, Sample.level 1 5⟩)).2
    let refresh := Request.get "Gauge" (.int 1) .forceRefresh
    (s'.ask refresh).1 = .ok [⟨"Gauge", .int 1, 0⟩] ∧ s'.dispatched refresh = [] ∧
      ∃ i', (s'.ask refresh).2.read? ⟨"Gauge", .int 1, 0⟩ = some i' ∧
        i'.record = Sample.level 1 5 := by
  intro s s' refresh
  have registered : s.session.caches.get? "Gauge" = some (.new Sample.gauge) := by decide +kernel
  have done : (s.ask (.persist ⟨Sample.gauge, .create, Sample.level 1 5⟩)).1
      = .ok [⟨"Gauge", .int 1, 0⟩] := by decide +kernel
  have held : s'.read? ⟨"Gauge", .int 1, 0⟩ = some ⟨0, .int 1, Sample.level 1 5, 0⟩ := by
    decide +kernel
  have kept : ∀ i, s'.read? ⟨"Gauge", .int 1, 0⟩ = some i → i.record.isKept = true := by
    intro i reads
    rw [held] at reads
    cases reads
    decide +kernel
  have key : (Memory.tables s.session.gateway.rows "gauge").map (·.key) = some "id" := by
    decide +kernel
  have answering : s'.session.Answering Sample.gauge (.int 1) := ⟨_, _, _, rfl, rfl⟩
  obtain ⟨i, normal, i', reads, normalised, answer, reads', record, events⟩ :=
    refresh_after_persist Memory.faithful (Sample.reachable_memorising _ _)
      (d := ⟨Sample.gauge, .create, Sample.level 1 5⟩) registered
      (Sample.hosts_gauges.known _ rfl) (fun _ => Tables.key_of_map key) done kept answering
  obtain rfl := Option.some.inj (reads.symm.trans held)
  have own : Sample.gauge.normalise (Sample.level 1 5) = .ok (Sample.level 1 5) := by
    decide +kernel
  obtain rfl : normal = Sample.level 1 5 := Except.ok.inj (normalised.symm.trans own)
  refine ⟨answer, ?_, i', reads', record⟩
  rw [events, if_pos (Record.same_self (Record.hasNaN_of_isKept (kept _ held)))]

/-- A gauge is created without a level. The refresh that follows tells of an update: the level has
become null. -/
theorem refresh_tells_of_left_out_field :
    let s := (Sample.memorising []).after [.request (.register Sample.gauge)]
    let given : Record := OrderedMap.ofList [("id", .int 1)]
    let d : Draft := ⟨Sample.gauge, .create, given⟩
    let s' := (s.ask (.persist d)).2
    let refresh := Request.get "Gauge" (.int 1) .forceRefresh
    let normal : Record := OrderedMap.ofList [("id", .int 1), ("level", .null)]
    Hosts Memory.tables (· = Sample.gauge) ∧ s.Reachable ∧ given.hasNaN = false ∧
      (s.ask (.persist d)).1 = .ok [⟨"Gauge", .int 1, 0⟩] ∧
      (s'.ask refresh).1 = .ok [⟨"Gauge", .int 1, 0⟩] ∧
      s'.read? ⟨"Gauge", .int 1, 0⟩ = some ⟨0, .int 1, given, 0⟩ ∧
      (s'.ask refresh).2.read? ⟨"Gauge", .int 1, 0⟩ = some ⟨0, .int 1, normal, 1⟩ ∧
      Record.same normal given = false ∧
      s'.dispatched refresh = [⟨Sample.gauge, .int 1, .updated given normal⟩] := by
  refine ⟨Sample.hosts_gauges, Sample.reachable_memorising _ _, ?_, ?_, ?_, ?_, ?_, ?_, ?_⟩
  all_goals decide +kernel

end Store

end IdentityMap
