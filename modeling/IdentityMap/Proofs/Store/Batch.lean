import IdentityMap.Proofs.Session.Batch
import IdentityMap.Proofs.Store.BulkInsert
import IdentityMap.Proofs.Store.Failure
import IdentityMap.Proofs.Store.Overwrite
/-!
# Batches of new instances

New instances of one type whose keys are known beforehand may be persisted one after the other
(`Store.PersistsInTurn`) or all at once. If the row store takes them in turn, persisting them at
once succeeds too and comes to the same: the same instances in the order of the drafts, the same
events, caches, sequences and rows, whatever the batch size and the limits of the dialect are. If
they do not keep the rules, persisting them at once fails before any row goes out
(`Store.batch_refines_turns`).
-/

namespace IdentityMap

open Sql IdentityCache

variable {σ τ : Type} [RowStore σ] {tables : σ → Tables}

/-! ### Rows in turn and together -/

section Rows

variable {t : EntityType} {d : Dialect}

/-- A key whose record was inserted had no row before. -/
theorem insertOne_fresh (faithful : Faithful tables) (assigned : t.assignment ≠ .backend)
    {rows next : σ} (keyed : Keyed (Eq t) (tables rows)) {r : Record} {key : EntityKey}
    (carries : t.keyOf? r = some key) {met : Nat}
    (ran : RowStore.execute (d.insert ⟨t⟩) ((d.insert ⟨t⟩).bind r) rows = (.ok met, next)) :
    (tables rows).row? t.table key.stored = none := by
  have effect : Effect (tables rows) (bound (TableMapping.mk t).insertColumns r) met (tables next)
      (.insert t.table (Dialect.columnNames (TableMapping.mk t).insertColumns) 1
        (Dialect.generatedKeyOf ⟨t⟩)) := faithful.execute _ _ _ _ _ ran
  obtain ⟨table, rows', here, inserts, _⟩ := effect
  have free : table.rows.row? ((newCells t r).cell table.key) = none := inserts.1
  have own : (newCells t r).cell table.key = key.stored := by
    rw [keyed t rfl table here]
    exact (stores_newCells assigned).cell_key carries
  rw [Tables.row?_of_table here, ← own, free]

/-- Records that were inserted in turn had different keys, none of which had a row before. -/
theorem runsInTurn_changes (faithful : Faithful tables) (assigned : t.assignment ≠ .backend)
    {pairs : List (EntityKey × Record)} (carried : Carried t pairs) {rows rows' : σ}
    (keyed : Keyed (Eq t) (tables rows))
    (runs : RunsInTurn (d.insert ⟨t⟩) ((pairs.map (·.2)).map (d.insert ⟨t⟩).bind) rows rows') :
    (∀ p ∈ pairs, (tables rows).row? t.table p.1.stored = none) ∧ (pairs.map (·.1)).Nodup ∧
      Changed (tables rows) (tables rows') t.table
        (putNew t ((tables rows).row? t.table) (pairs.map (·.2))) := by
  induction pairs generalizing rows with
  | nil =>
    cases runs
    exact ⟨by simp, .nil, changed_refl _ _⟩
  | cons p rest ih =>
    obtain ⟨key, r⟩ := p
    cases runs with
    | cons ran others =>
      have carries := carried (key, r) List.mem_cons_self
      have first := insertOne_outcome faithful rfl keyed ran
      have fresh := insertOne_fresh faithful assigned keyed carries ran
      obtain ⟨absent, once, later⟩ :=
        ih (fun q listed => carried q (List.mem_cons_of_mem _ listed)) (first.keyed keyed) others
      have own := (stores_newCells (r := r) assigned).cell_key carries
      rw [first.row?] at later
      -- what is not there after the first row was put is another key and was not there before
      have apart : ∀ q ∈ rest, q.1 ≠ key ∧ (tables rows).row? t.table q.1.stored = none := by
        intro q listed
        have missing := absent q listed
        rw [first.row?, putRow, own] at missing
        split at missing
        · cases missing
        · rename_i other
          exact ⟨fun same => other (same ▸ rfl), missing⟩
      refine ⟨?_, ?_, first.trans later⟩
      · intro q listed
        rcases List.mem_cons.1 listed with rfl | listed
        · exact fresh
        · exact (apart q listed).2
      · refine List.nodup_cons.2 ⟨fun again => ?_, once⟩
        obtain ⟨q, listed, same⟩ := List.mem_map.1 again
        exact (apart q listed).1 same

/-- Rows that are taken in turn are taken together. -/
theorem insertRows_taken (assigned : t.assignment ≠ .backend) {g : Gateway σ}
    (together : TakesTogether σ g.dialect t) {records : List Record} {rows' : σ}
    (runs : RunsInTurn (g.dialect.insert ⟨t⟩) (records.map (g.dialect.insert ⟨t⟩).bind) g.rows
      rows')
    (batch : Nat) : ∃ n, (TableMapping.insertRows ⟨t⟩ records batch g).1 = .ok n := by
  have plain := EntityType.keyColumn_plain assigned
  have wide := TableMapping.insertColumns_ne_nil plain
  by_cases several : 2 ≤ records.length
  · by_cases joins : g.dialect.multiRowInsert = true ∧ g.dialect.Takes ⟨t⟩ batch records.length
    · obtain ⟨multi, takes⟩ := joins
      obtain ⟨many, produced⟩ := Dialect.insertMany_ok wide multi takes
      obtain ⟨met, taken⟩ := together.joined _ g.rows rows' many (by simpa using produced)
        (by simp [Statement.bind, Dialect.insert, Dialect.statement, Dialect.fieldNames]) runs
      rw [TableMapping.insertRows_joint wide several multi takes produced, List.flatMap_def]
      exact ⟨met, taken⟩
    · rw [TableMapping.insertRows_apart wide several joins]
      have some : records.map (g.dialect.insert ⟨t⟩).bind ≠ [] := by
        intro none
        simp [List.map_eq_nil_iff.1 none] at several
      exact together.batch _ g.rows rows' some runs
  · rcases records with _ | ⟨r, _ | ⟨_, _⟩⟩
    · exact ⟨0, rfl⟩
    · cases runs with
      | cons ran _ =>
        rw [TableMapping.insertRows_single plain, ran]
        exact ⟨1, rfl⟩
    · exact absurd (by simp) several

omit [RowStore σ] in
/-- The same change of one table leaves the same rows in all tables. -/
theorem Changed.row?_unique {T T' T'' : Tables} {name : String} {row?' : Stored → Option Cells}
    (first : Changed T T' name row?') (second : Changed T T'' name row?') : T'.row? = T''.row? := by
  funext other
  by_cases same : other = name
  · rw [same, first.row?, second.row?]
  · rw [first.others other same, second.others other same]

end Rows

/-! ### New instances in turn and together -/

namespace Session

/-- To persist the draft of a new instance is to create the instance. -/
theorem persist_create {s : Session σ} (sound : s.Sound) {d : Draft} {c : IdentityCache}
    (cached : s.caches.get? d.entityType.name = some c) (create : d.intent = .create) :
    persist d s = Session.create ⟨c.entityType⟩ d.values s := by
  unfold persist
  rw [bind_of_ok (sound.resolve_ok cached)]
  simp only [create]

/-- Instances that can be created in turn can be created together, and it comes to the same. -/
theorem CreatesInTurn.together (faithful : Faithful tables) {s s' : Session σ} {c : IdentityCache}
    {values : List Record} {handles : List Handle} {events : List Event}
    (inTurn : CreatesInTurn ⟨c.entityType⟩ s values handles events s') (sound : s.Sound)
    (assigned : c.entityType.assignment ≠ .backend)
    (cached : s.caches.get? c.entityType.name = some c) (none : s.outbox = [])
    (some : values ≠ []) (keyed : Keyed (Eq c.entityType) (tables s.gateway.rows))
    (together : TakesTogether σ s.gateway.dialect c.entityType) :
    ∃ u, createBatch c.entityType.name values s = (.ok handles, u) ∧ u.outbox = events ∧
      u.caches = s'.caches ∧ u.sequences = s'.sequences ∧
      (tables u.gateway.rows).row? = (tables s'.gateway.rows).row? := by
  obtain ⟨pairs, t, looks, dialect, batched, inserted, sequences⟩ :=
    inTurn.batched sound assigned cached none some
  rw [← faithful.reads looks.reads] at keyed
  rw [← dialect] at together
  obtain ⟨_, once, changed⟩ :=
    runsInTurn_changes faithful assigned inserted.carried keyed inserted.ran
  obtain ⟨n, taken⟩ := insertRows_taken assigned together inserted.ran t.settings.batchSize
  rcases ran : TableMapping.insertRows ⟨c.entityType⟩ (pairs.map (·.2)) t.settings.batchSize
    t.gateway with ⟨o, g⟩
  rw [ran] at taken
  obtain rfl : o = .ok n := taken
  have made := insertTogether_made (looks.caches ▸ cached) inserted.carried inserted.fit ran
  have stored := insertRows_outcome faithful rfl keyed assigned ran
  rw [inserted.handles, inserted.events]
  refine ⟨_, (batched once).trans made, ?_, inserted.caches.symm, sequences.symm,
    stored.row?_unique changed⟩
  rw [looks.outbox, none, List.nil_append,
    toldInTurn_eq (sound.caches _ c cached) inserted.carried once]

end Session

/-! ### Drafts in turn and together -/

/-- What is looked up for every place in order is what was listed for the places. -/
theorem filterMap_lookup_zip {α β : Type} [BEq α] [LawfulBEq α] {places : List α}
    (once : places.Nodup) {values : List β} (length : places.length = values.length) :
    places.filterMap (fun place => List.lookup place (places.zip values)) = values := by
  induction places generalizing values with
  | nil => simpa using length.symm
  | cons place rest ih =>
    cases values with
    | nil => cases length
    | cons v others =>
      obtain ⟨absent, once⟩ := List.nodup_cons.1 once
      have later : ∀ p ∈ rest, List.lookup p ((place, v) :: rest.zip others)
          = List.lookup p (rest.zip others) := by
        intro p listed
        have other : (p == place) = false := by
          simpa using fun same : p = place => absent (same ▸ listed)
        rw [List.lookup_cons, other]
      rw [List.zip_cons_cons, List.filterMap_cons, List.lookup_cons_self,
        List.filterMap_congr later, ih once (Nat.succ.inj length)]

namespace Store

open Session

variable [TriggerHost τ] {s t : Store σ τ}

/-- Drafts are persisted one after the other, and all of them succeed. The instances are in the
order of the drafts, and the events in the order in which triggers are told of them. -/
inductive PersistsInTurn :
    Store σ τ → List Draft → List Handle → List Event → Store σ τ → Prop
  | nil (s : Store σ τ) : PersistsInTurn s [] [] [] s
  | cons {s t : Store σ τ} {d : Draft} {rest : List Draft} {h : Handle} {handles : List Handle}
    {events : List Event} (persisted : (s.ask (.persist d)).1 = .ok [h])
    (others : PersistsInTurn (s.ask (.persist d)).2 rest handles events t) :
    PersistsInTurn s (d :: rest) (h :: handles) (s.dispatched (.persist d) ++ events) t

theorem PersistsInTurn.creates {type : EntityType} {drafts : List Draft} {handles : List Handle}
    {events : List Event} (inTurn : PersistsInTurn s drafts handles events t)
    (sound : s.session.Sound) {c : IdentityCache} (own : c.entityType = type)
    (registered : s.session.caches.get? type.name = some c)
    (alike : ∀ d ∈ drafts, d.entityType = type ∧ d.intent = .create) :
    CreatesInTurn ⟨type⟩ s.session (drafts.map (·.values)) handles events t.session := by
  induction inTurn generalizing c with
  | nil s => exact .nil s.session
  | @cons s t d rest h handles events persisted others ih =>
    subst own
    obtain ⟨type, create⟩ := alike d List.mem_cons_self
    obtain ⟨later, stable, _⟩ := ask_sound sound (.persist d)
    obtain ⟨c', cached, steps, _⟩ := stable _ c registered
    obtain ⟨o, u, ran, outcome, after, told⟩ := ask_cases (.persist d) s
    obtain ⟨answer, ran, same⟩ := Request.instancesIn_cases ran
    rw [outcome, same] at persisted
    cases answer with
    | error e => cases persisted
    | ok h' =>
      cases persisted
      have next := ih later steps.entityType cached fun d' listed =>
        alike d' (List.mem_cons_of_mem _ listed)
      rw [after] at next
      rw [told]
      rw [← type] at registered
      rw [persist_create sound registered create] at ran
      exact .cons ran next

/-- New instances of one type whose keys are known beforehand, in front of a row store that takes
together what it takes in turn. Where the drafts can be persisted in turn they can be persisted at
once: it answers with the same instances, tells of the same events, and leaves the same caches,
sequences and rows. Where a draft does not keep the rules of the type, or the drafts do not keep
them together, persisting them at once fails, and all that is sent to the row store is the query for
the largest key. -/
theorem batch_refines_turns (faithful : Faithful tables) {s : Store σ τ} (shared : s.Shared)
    {c : IdentityCache} (registered : s.session.caches.get? c.entityType.name = some c)
    (assigned : c.entityType.assignment ≠ .backend)
    (keyed : ∀ table, tables s.session.gateway.rows c.entityType.table = some table →
      table.key = c.entityType.key.column)
    (together : TakesTogether σ s.session.gateway.dialect c.entityType) {drafts : List Draft}
    (alike : ∀ d ∈ drafts, d.entityType = c.entityType ∧ d.intent = .create) :
    let s' := (s.ask (.persistAll drafts)).2
    (∀ handles events t, PersistsInTurn s drafts handles events t →
      (s.ask (.persistAll drafts)).1 = .ok handles ∧ s.dispatched (.persistAll drafts) = events ∧
      s'.session.caches = t.session.caches ∧ s'.session.sequences = t.session.sequences ∧
      (tables s'.session.gateway.rows).row? = (tables t.session.gateway.rows).row?) ∧
    ((∃ d ∈ drafts, ¬ c.entityType.Admits d.values) ∨ (drafts ≠ [] ∧
        ¬ ∃ records, s.session.Ready c.entityType (drafts.map (·.values)) records) →
      ∃ e, (s.ask (.persistAll drafts)).1 = .error e ∧
        RowStore.Sends (· = .maxKey c.entityType.table c.entityType.key.column)
          s.session.gateway.rows s'.session.gateway.rows) := by
  have sound := shared.sound
  have batchable : ∀ d ∈ drafts, d.isBatchable = true ∧ d.entityType.name = c.entityType.name := by
    intro d listed
    obtain ⟨own, create⟩ := alike d listed
    exact ⟨by simp [Draft.isBatchable, create, own, assigned], by rw [own]⟩
  obtain ⟨o, u, ran, outcome, after, told⟩ := ask_cases (.persistAll drafts) s
  have ran : Session.persistAll drafts s.session = (o, u) := ran
  dsimp only
  rw [outcome, after, told]
  constructor
  · intro handles events t inTurn
    have created := inTurn.creates sound rfl registered alike
    by_cases none : drafts = []
    · subst none
      cases inTurn
      obtain ⟨rfl, rfl⟩ := pure_cases ran
      exact ⟨rfl, shared.outbox, rfl, rfl, rfl⟩
    · have keyed : Keyed (Eq c.entityType) (tables s.session.gateway.rows) := by
        rintro _ rfl
        exact keyed
      obtain ⟨v, batched, same⟩ := created.together faithful sound assigned registered
        shared.outbox (by simpa using none) keyed together
      rw [persistAll_together none batchable, bind_of_ok batched] at ran
      obtain ⟨rfl, rfl⟩ := pure_cases ran
      have places : (List.range drafts.length).length = handles.length := by
        rw [created.length, List.length_range, List.length_map]
      rw [filterMap_lookup_zip List.nodup_range places]
      exact ⟨rfl, same⟩
  · intro broken
    have some : drafts ≠ [] := by
      rcases broken with ⟨d, listed, _⟩ | ⟨some, _⟩
      · exact List.ne_nil_of_mem listed
      · exact some
    have unready : ¬ ∃ records, s.session.Ready c.entityType (drafts.map (·.values)) records := by
      rintro ⟨records, ready⟩
      rcases broken with ⟨d, listed, refused⟩ | ⟨_, unready⟩
      · exact refused (ready.admits _ (List.mem_map_of_mem listed))
      · exact unready ⟨records, ready⟩
    obtain ⟨e, v, failed, sent⟩ := createBatch_refused sound registered assigned unready
    rw [persistAll_together some batchable, bind_of_error failed] at ran
    cases ran
    exact ⟨e, rfl, sent⟩

/-- Two gauges are persisted at once as they would be in turn; twice the same gauge is refused, and
so is a gauge without a key. -/
theorem batch_refines_turns_gauge :
    let s := (Sample.memorising []).after [.request (.register Sample.gauge)]
    let low : Draft := ⟨Sample.gauge, .create, Sample.level 1 5⟩
    let high : Draft := ⟨Sample.gauge, .create, Sample.level 2 6⟩
    let keyless : Draft := ⟨Sample.gauge, .create, .empty⟩
    (s.ask (.persistAll [low, high])).1 = .ok [⟨"Gauge", .int 1, 0⟩, ⟨"Gauge", .int 2, 1⟩] ∧
      s.dispatched (.persistAll [low, high])
        = [⟨Sample.gauge, .int 1, .created low.values⟩,
          ⟨Sample.gauge, .int 2, .created high.values⟩] ∧
      (∃ e, (s.ask (.persistAll [low, low])).1 = .error e) ∧
      ∃ e, (s.ask (.persistAll [low, keyless])).1 = .error e := by
  intro s low high keyless
  have registered : s.session.caches.get? "Gauge" = some (.new Sample.gauge) := by decide +kernel
  have key : (Memory.tables s.session.gateway.rows "gauge").map (·.key) = some "id" := by
    decide +kernel
  have refines (drafts : List Draft)
      (alike : ∀ d ∈ drafts, d.entityType = Sample.gauge ∧ d.intent = .create) :=
    batch_refines_turns (s := s) (c := .new Sample.gauge) Memory.faithful (shared_memorising _)
      registered (show Sample.gauge.assignment ≠ .backend by decide)
      (fun _ => Tables.key_of_map key) (Memory.takesTogether _ _) alike
  -- the two gauges in turn
  have first : (s.ask (.persist low)).1 = .ok [⟨"Gauge", .int 1, 0⟩] := by decide +kernel
  have second : ((s.ask (.persist low)).2.ask (.persist high)).1 = .ok [⟨"Gauge", .int 2, 1⟩] := by
    decide +kernel
  have told : s.dispatched (.persist low) ++ ((s.ask (.persist low)).2.dispatched (.persist high)
      ++ []) = [⟨Sample.gauge, .int 1, .created low.values⟩,
        ⟨Sample.gauge, .int 2, .created high.values⟩] := by decide +kernel
  obtain ⟨answered, events, _⟩ := (refines [low, high] (by simp [low, high])).1 _ _ _
    (.cons first (.cons second (.nil _)))
  have again : ¬ ∃ records, s.session.Ready Sample.gauge ([low, low].map (·.values)) records := by
    rintro ⟨records, ready⟩
    cases ready with
    | caller keys _ carried once _ =>
      have differ : (keys.map some).Nodup :=
        List.pairwise_map.2 (once.imp fun differ same => differ (Option.some.inj same))
      rw [← carried] at differ
      exact absurd differ (by decide +kernel)
    | sequence _ assigned => cases assigned
  have unkeyed : ¬ Sample.gauge.Admits keyless.values := fun admits => by
    obtain ⟨key, carries⟩ := admits.1
    cases carries
  obtain ⟨e, refused, _⟩ := (refines [low, low] (by simp [low])).2 (.inr ⟨by simp, again⟩)
  obtain ⟨e', rejected, _⟩ := (refines [low, keyless] (by simp [low, keyless])).2
    (.inl ⟨keyless, by simp, unkeyed⟩)
  exact ⟨answered, events.trans told, ⟨e, refused⟩, e', rejected⟩

end Store

end IdentityMap
