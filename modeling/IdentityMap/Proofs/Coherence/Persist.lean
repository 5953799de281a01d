import IdentityMap.Proofs.Coherence.Session
/-!
# Persisting keeps sessions coherent

A record is only written after a check, so each of its fields can be decoded; and where storage
keeps its values the row gives back what the record normalises to. So the record that goes into the
cache reflects the row that was written, whether it is new, one of many, or a change of what was
there.
-/

namespace IdentityMap

open Sql

/-! ### Records that are written -/

section Records

variable {t : EntityType} {r : Record}

/-- Storage keeps the value of every field. -/
def EntityType.Keeps (t : EntityType) (r : Record) : Prop :=
  ∀ f ∈ t.fields, (r.valueOf f.name).isKept = true

/-- Every field of the record can be decoded. -/
def EntityType.Decodes (t : EntityType) (r : Record) : Prop :=
  ∀ f ∈ t.fields, ∃ v, f.type.decode f.name (r.valueOf f.name) = .ok v

theorem EntityType.keeps (t : EntityType) (kept : r.isKept = true) : t.Keeps r :=
  fun f _ => Record.isKept_valueOf kept f.name

theorem valueOf_withKey_self (t : EntityType) (r : Record) (v : Value) :
    (t.withKey r v).valueOf t.key.name = v := by
  simp [EntityType.withKey, Record.valueOf]

theorem valueOf_withKey_of_ne (v : Value) {name : String} (other : name ≠ t.key.name) :
    (t.withKey r v).valueOf name = r.valueOf name := by
  simp [EntityType.withKey, Record.valueOf, OrderedMap.get?_insert_of_ne _ _ other.symm]

theorem EntityType.Keeps.withKey (kept : t.Keeps r) (key : EntityKey) :
    t.Keeps (t.withKey r key.toValue) := by
  intro f declared
  by_cases own : f.name = t.key.name
  · rw [own, valueOf_withKey_self]
    cases key <;> rfl
  · rw [valueOf_withKey_of_ne _ own]
    exact kept f declared

theorem EntityType.Keeps.merge {values : Record} (kept : t.Keeps r)
    (given : values.isKept = true) : t.Keeps (r.merge values) := by
  intro f declared
  cases found : values.get? f.name with
  | none => simpa [Record.valueOf, OrderedMap.get?_merge, found] using kept f declared
  | some v =>
    simpa [Record.valueOf, OrderedMap.get?_merge, found] using Record.isKept_valueOf given f.name

theorem Reflects.keeps {cells : Cells} (reflects : Reflects t r cells) : t.Keeps r :=
  fun f declared => (reflects f declared).1

/-- With a key that its key field can hold, a record can be decoded if one can that differs from it
in the key at most. -/
theorem EntityType.Decodes.withKey {r' : Record} {w : Value} (decodes : t.Decodes r')
    (same : ∀ name, name ≠ t.key.name → r'.valueOf name = r.valueOf name)
    (fits : ∃ x, t.key.type.decode t.key.name w = .ok x) : t.Decodes (t.withKey r w) := by
  intro f declared
  by_cases own : f.name = t.key.name
  · obtain rfl := EntityType.field_eq declared t.wellFormed.keyDeclared own
    rw [valueOf_withKey_self]
    exact fits
  · rw [valueOf_withKey_of_ne _ own, ← same _ own]
    exact decodes f declared

/-- A key that was read from an answer can be decoded. -/
theorem decode_reportedKey {raw : Value} {key : EntityKey}
    (reported : TableMapping.reportedKey ⟨t⟩ raw = .ok key) :
    ∃ v, t.key.type.decode t.key.name key.toValue = .ok v := by
  obtain ⟨rfl, fits⟩ := reportedKey_eq_ok.1 reported
  exact fits

/-- A check that passes with one key in the key field passes with any other one that the field can
hold. -/
theorem EntityType.check_withKey {v : Value} {key : EntityKey}
    (fits : t.check (t.withKey r v) = .ok ())
    (holds : ∃ x, t.key.type.decode t.key.name key.toValue = .ok x) :
    t.check (t.withKey r key.toValue) = .ok () := by
  obtain ⟨declared, fields⟩ := check_ok_iff.1 fits
  refine check_ok_iff.2 ⟨fun name listed => declared name ?_, fun f member => ?_⟩
  · obtain ⟨x, found⟩ := OrderedMap.mem_keys_iff.1 listed
    refine OrderedMap.mem_keys_iff.2 ?_
    by_cases own : t.key.name = name
    · exact ⟨v, by rw [← own, withKey, OrderedMap.get?_insert_self]⟩
    · refine ⟨x, ?_⟩
      rw [withKey, OrderedMap.get?_insert_of_ne _ _ own] at found ⊢
      exact found
  · by_cases own : f.name = t.key.name
    · obtain rfl := field_eq member t.wellFormed.keyDeclared own
      obtain ⟨x, decoded⟩ := holds
      have given : key.toValue.isNull = false := by cases key <;> rfl
      simp [checkField, withKey, given, decoded, Except.map]
    · have passed := fields f member
      unfold checkField withKey at passed ⊢
      rw [OrderedMap.get?_insert_of_ne _ _ (Ne.symm own)] at passed ⊢
      exact passed

end Records

/-- Records are put one by one, and so are their rows. -/
theorem IdentityCache.Mirrors.putAll {c : IdentityCache} {pairs : List (EntityKey × Record)}
    {row? : Stored → Option Cells} (mirrors : c.Mirrors row?) (carried : Carried c.entityType pairs)
    (assigned : c.entityType.assignment ≠ .backend)
    (reflects : ∀ p ∈ pairs, Reflects c.entityType p.2 (newCells c.entityType p.2)) :
    (putAllKeyed pairs c).2.Mirrors (putNew c.entityType row? (pairs.map (·.2))) := by
  induction pairs generalizing c row? with
  | nil => exact mirrors
  | cons p rest ih =>
    obtain ⟨key, r⟩ := p
    have own := (stores_newCells (r := r) assigned).cell_key (carried _ List.mem_cons_self)
    have first : (c.putKeyed key r).2.Mirrors
        (putRow c.entityType row? (newCells c.entityType r)) :=
      mirrors.put (reflects _ List.mem_cons_self) fun k => by rw [putRow, own]
    have type : (c.putKeyed key r).2.entityType = c.entityType := putKeyed_entityType c key r
    rw [putAllKeyed_cons, List.map_cons, putNew_cons, ← type]
    rw [← type] at first
    refine ih first ?_ (type ▸ assigned) ?_
    · rw [type]
      exact fun p listed => carried p (List.mem_cons_of_mem _ listed)
    · rw [type]
      exact fun p listed => reflects p (List.mem_cons_of_mem _ listed)

namespace Session

open IdentityCache (Carried)

variable {σ : Type} [RowStore σ] {tables : σ → Tables} {types : EntityType → Prop}
  {s t s' : Session σ} {typeName : String} {c c' : IdentityCache} {events : List Event}

/-! ### Creating -/

omit [RowStore σ] in
theorem Prepared.keeps {t : EntityType} {values record : Record}
    (prepared : Prepared t values record) (kept : values.isKept = true)
    (generated : Option EntityKey) : t.Keeps (complete t record generated) := by
  have given : t.Keeps record := by
    cases prepared with
    | caller _ _ _ _ => exact t.keeps kept
    | backend _ _ => exact t.keeps kept
    | sequence key _ _ => exact (t.keeps kept).withKey (.int key)
  cases generated with
  | none => exact given
  | some key => exact given.withKey key

/-- Once its row is inserted a prepared record passes the check of its type. -/
theorem Prepared.checked {t : EntityType} {values record : Record} {g g' : Gateway σ}
    {generated : Option EntityKey} (prepared : Prepared t values record)
    (inserted : TableMapping.insertRow ⟨t⟩ record g = (.ok generated, g')) :
    t.check (complete t record generated) = .ok () := by
  have kind := t.keyColumn_generated
  rcases TableMapping.insertRow_cases inserted with ⟨plain, answer, _, same⟩ |
    ⟨generates, answer, _, same⟩
  · rw [kind] at plain
    cases answer with
    | error e => cases same
    | ok n =>
      cases same
      cases prepared with
      | caller _ _ _ fits => exact fits
      | backend assigned _ => simp [assigned] at plain
      | sequence _ _ fits => exact fits
  · rw [kind] at generates
    cases read : answer.bind (TableMapping.reportedKey ⟨t⟩) with
    | error e => simp [read, Except.map] at same
    | ok key =>
      simp only [read, Except.map, Except.ok.injEq] at same
      subst same
      cases prepared with
      | caller _ assigned _ _ => simp [assigned] at generates
      | sequence _ assigned _ => simp [assigned] at generates
      | backend _ fits =>
        -- the check was made with a placeholder; the generated key has been decoded since
        refine EntityType.check_withKey fits ?_
        cases answer with
        | error e => cases read
        | ok raw => exact decode_reportedKey read

theorem Prepared.decodes {t : EntityType} {values record : Record} {g g' : Gateway σ}
    {generated : Option EntityKey} (prepared : Prepared t values record)
    (inserted : TableMapping.insertRow ⟨t⟩ record g = (.ok generated, g')) :
    t.Decodes (complete t record generated) :=
  fun _ => decode_of_check (prepared.checked inserted)

theorem CreateEnds.coherent (coherent : s.Coherent tables types) (hosts : Hosts tables types)
    {values : Record} (kept : values.isKept = true) {o : Except Error Handle}
    (ends : CreateEnds s s' c values o) (cached : s.caches.get? c.entityType.name = some c) :
    s'.Coherent tables types := by
  have typed := coherent.typed _ c cached
  cases ends with
  | refused _ looks => exact coherent.looks hosts looks
  | uninserted _ looks _ failed quiet =>
    have before := coherent.looks hosts looks
    have same := insertRow_outcome hosts typed before.keyed failed
    exact coherent.quiet quiet (same.trans (hosts.faithful.reads looks.reads))
  | @inserted _ record generated _ _ h looks prepared inserted merged alters =>
    have before := coherent.looks hosts looks
    obtain ⟨cells, stores, changed⟩ := insertRow_outcome hosts typed before.keyed inserted
    rw [hosts.faithful.reads looks.reads] at changed
    obtain ⟨key, carries, _, rfl, _⟩ := IdentityCache.mergeRecord_eq_ok merged
    have reflects := stores.reflects (hosts.known _ typed)
      (prepared.keeps kept generated) (prepared.decodes inserted)
    refine coherent.alters hosts alters (.single (.put carries)) changed
      ((coherent.mirrors _ c cached).put reflects fun k => ?_)
    rw [putRow, stores.cell_key carries]

/-! ### Creating together -/

theorem InsertEnds.coherent (coherent : s.Coherent tables types) (hosts : Hosts tables types)
    {records : List Record} (assigned : c.entityType.assignment ≠ .backend)
    (kept : ∀ r ∈ records, c.entityType.Keeps r) {o : Except Error (List Handle)}
    (ends : InsertEnds s s' c records o) (cached : s.caches.get? c.entityType.name = some c) :
    s'.Coherent tables types := by
  have typed := coherent.typed _ c cached
  cases ends with
  | refused _ looks => exact coherent.looks hosts looks
  | uninserted _ _ failed quiet =>
    have same := insertRows_outcome hosts.faithful typed coherent.keyed assigned failed
    exact coherent.quiet quiet same
  | inserted _ fit inserted merged alters =>
    have changed := insertRows_outcome hosts.faithful typed coherent.keyed assigned inserted
    obtain ⟨pairs, keyed, carried, _, rfl, _⟩ := IdentityCache.mergeRecords_eq_ok merged
    obtain ⟨rfl, _⟩ := IdentityCache.keyed_eq_ok keyed
    refine coherent.alters hosts alters (IdentityCache.steps_putAllKeyed carried) changed
      ((coherent.mirrors _ c cached).putAll carried assigned fun p listed => ?_)
    have member : p.2 ∈ pairs.map (·.2) := List.mem_map_of_mem listed
    exact (stores_newCells assigned).reflects (hosts.known _ typed) (kept _ member)
      fun _ => decode_of_check (fit _ member)

/-! ### Modifying -/

/-- Storage keeps what a change is laid over: it is cached, or it was decoded from a row. -/
theorem Base.keeps (coherent : s.Coherent tables types) (hosts : Hosts tables types)
    (cached : s.caches.get? c.entityType.name = some c) {key : EntityKey} {base : Record}
    (found : Base s t c key base) : c.entityType.Keeps base := by
  cases found with
  | cached i found _ =>
    obtain ⟨cells, _, reflects⟩ := (coherent.mirrors _ c cached).cached key i found
    exact reflects.keeps
  | fetched _ others _ fetched _ =>
    have typed := coherent.typed _ c cached
    have brought := fetchKeys_brings hosts.faithful typed coherent.keyed fetched
    obtain ⟨_, cells, _, _, decoded⟩ := brought.origin base List.mem_cons_self
    exact (reflects_decoded decoded).keeps

/-- What the statement of a change does to the tables. -/
theorem Begun.outcome (faithful : Faithful tables) (typed : types c.entityType)
    (keyed : Keyed types (tables s.gateway.rows)) {t : Session σ} {key : EntityKey}
    {values base : Record} (begun : Begun s t c key values base) {met : Except Error Nat}
    {g : Gateway σ} (updated : TableMapping.updateRow ⟨c.entityType⟩
      (changed c.entityType base values key) t.gateway = (met, g)) :
    Outcome (tables s.gateway.rows) met (tables g.rows)
      (Updated c.entityType (changed c.entityType base values key) key (tables s.gateway.rows)
        (tables g.rows)) := by
  have same := faithful.reads begun.base.looks.reads
  have carries : c.entityType.keyOf? (changed c.entityType base values key) = some key := by
    simp [changed]
  have updates := updateRow_outcome faithful typed (same ▸ keyed) carries updated
  rwa [same] at updates

/-- An update that has met no row has changed none. -/
theorem Begun.unmet (faithful : Faithful tables) (typed : types c.entityType)
    (keyed : Keyed types (tables s.gateway.rows)) {t : Session σ} {key : EntityKey}
    {values base : Record} (begun : Begun s t c key values base) {g : Gateway σ}
    (updated : TableMapping.updateRow ⟨c.entityType⟩ (changed c.entityType base values key)
      t.gateway = (.ok 0, g)) : tables g.rows = tables s.gateway.rows := by
  cases begun.outcome faithful typed keyed updated with
  | missed _ _ same => exact same
  | stored _ _ _ _ unmet => exact unmet rfl

/-- A change that has succeeded has stored its record in the row of its key. -/
theorem Begun.stored (faithful : Faithful tables) (typed : types c.entityType)
    (keyed : Keyed types (tables s.gateway.rows)) {t : Session σ} {key : EntityKey}
    {values base : Record} (begun : Begun s t c key values base) {met : Nat} {g : Gateway σ}
    (updated : TableMapping.updateRow ⟨c.entityType⟩ (changed c.entityType base values key)
      t.gateway = (.ok met, g))
    (present : met ≠ 0 ∧ g = s'.gateway ∨
      met = 0 ∧ TableMapping.rowExists ⟨c.entityType⟩ key g = (.ok true, s'.gateway)) :
    ∃ cells, (tables s.gateway.rows).row? c.entityType.table key.stored ≠ none ∧
      Stores c.entityType (changed c.entityType base values key) cells ∧
      Changed (tables s.gateway.rows) (tables s'.gateway.rows) c.entityType.table
        (putRow c.entityType ((tables s.gateway.rows).row? c.entityType.table) cells) := by
  have same : tables s'.gateway.rows = tables g.rows := by
    rcases present with ⟨_, rfl⟩ | ⟨_, asked⟩
    · rfl
    · exact faithful.reads (TableMapping.rowExists_reads asked)
  cases begun.outcome faithful typed keyed updated with
  | missed missing unmet still =>
    rcases present with ⟨met, _⟩ | ⟨_, asked⟩
    · exact absurd unmet met
    · have found := rowExists_finds faithful typed (still ▸ keyed) asked
      rw [still] at found
      cases found.2 missing
  | stored cells row stores changed _ => exact ⟨cells, row, stores, same ▸ changed⟩

theorem ModifyEnds.coherent (coherent : s.Coherent tables types) (hosts : Hosts tables types)
    {key : EntityKey} {values : Record} (kept : values.isKept = true)
    {o : Except Error Handle} (ends : ModifyEnds s s' c key values o)
    (cached : s.caches.get? c.entityType.name = some c) : s'.Coherent tables types := by
  have typed := coherent.typed _ c cached
  have faithful := hosts.faithful
  cases ends with
  | refused _ looks => exact coherent.looks hosts looks
  | unwritten _ begun failed quiet =>
    exact coherent.quiet quiet (begun.outcome faithful typed coherent.keyed failed)
  | unconfirmed _ begun unmet reads quiet =>
    have same := begun.unmet faithful typed coherent.keyed unmet
    exact coherent.quiet quiet ((faithful.reads reads).trans same)
  | @gone _ _ g begun unmet missing alters =>
    have same := begun.unmet faithful typed coherent.keyed unmet
    have absent := (rowExists_finds faithful typed (same ▸ coherent.keyed) missing).1 rfl
    rw [same] at absent
    have mirrors : (IdentityCache.removeAll [key] c).2.Mirrors
        ((tables s.gateway.rows).row? c.entityType.table) :=
      (coherent.mirrors _ c cached).removeAll fun k => by
        by_cases own : k = key.stored
        · rw [own, absent, if_pos (by simp)]
        · rw [if_neg (by simpa using own)]
    exact coherent.merges hosts alters (.single (.remove key))
      ((faithful.reads (TableMapping.rowExists_reads missing)).trans same) mirrors
  | @written _ base met g _ _ h begun updated present merged alters =>
    obtain ⟨cells, _, stores, changed⟩ := begun.stored faithful typed coherent.keyed updated present
    obtain ⟨own, carries, _, rfl, _⟩ := IdentityCache.mergeChange_eq_ok merged
    have reflects := stores.reflects (hosts.known _ typed)
      (((begun.base.keeps coherent hosts cached).merge kept).withKey key)
      fun _ => decode_of_check begun.fits
    refine coherent.alters hosts alters (.single (.put carries)) changed
      ((coherent.mirrors _ c cached).put reflects fun k => ?_)
    rw [putRow, stores.cell_key carries]

/-! ### Drafts -/

theorem persist_coherent (coherent : s.Coherent tables types) (hosts : Hosts tables types)
    {d : Draft} (kept : d.values.isKept = true) {o : Except Error Handle}
    (run : persist d s = (o, s')) : s'.Coherent tables types := by
  rcases persist_cases coherent.toSound run with ⟨_, _, looks⟩ | ⟨c, cached, named, ends⟩
  · exact coherent.looks hosts looks
  rw [← named] at cached
  rcases ends with ⟨_, ends⟩ | ⟨key, _, ends⟩
  · exact ends.coherent coherent hosts kept cached
  · exact ends.coherent coherent hosts kept cached

theorem persistEach_coherent (coherent : s.Coherent tables types) (hosts : Hosts tables types)
    {drafts : List (Draft × Nat)} (kept : ∀ p ∈ drafts, p.1.values.isKept = true)
    {o : Except Error (List (Nat × Handle))} (run : persistEach drafts s = (o, s')) :
    s'.Coherent tables types := by
  induction drafts generalizing s s' o with
  | nil =>
    obtain ⟨_, rfl⟩ := pure_cases run
    exact coherent
  | cons first rest ih =>
    have own := kept first List.mem_cons_self
    have others := fun p listed => kept p (List.mem_cons_of_mem _ listed)
    unfold persistEach at run
    rcases bind_cases run with ⟨_, failed, _⟩ | ⟨_, t, persisted, run₁⟩
    · exact persist_coherent coherent hosts own failed
    have next := persist_coherent coherent hosts own persisted
    rcases bind_cases run₁ with ⟨_, failed, _⟩ | ⟨_, u, persistedRest, done⟩
    · exact ih next others failed
    obtain ⟨_, rfl⟩ := pure_cases done
    exact ih next others persistedRest

/-! ### Several new instances -/

theorem createEach_coherent (coherent : s.Coherent tables types) (hosts : Hosts tables types)
    (cached : s.caches.get? c.entityType.name = some c) {values : List Record}
    (kept : ∀ r ∈ values, r.isKept = true) {o : Except Error (List Handle)}
    (run : createEach ⟨c.entityType⟩ values s = (o, s')) : s'.Coherent tables types := by
  induction values generalizing s s' c o with
  | nil =>
    obtain ⟨_, rfl⟩ := pure_cases run
    exact coherent
  | cons first rest ih =>
    have own := kept first List.mem_cons_self
    have others := fun r listed => kept r (List.mem_cons_of_mem _ listed)
    unfold createEach at run
    rcases bind_cases run with ⟨_, failed, _⟩ | ⟨_, t, created, run₁⟩
    · exact (create_ends cached failed).coherent coherent hosts own cached
    have ends := create_ends cached created
    have next := ends.coherent coherent hosts own cached
    obtain ⟨_, kept, _⟩ := ends.sound coherent.toSound
    obtain ⟨c₁, cached₁, steps, _⟩ := kept _ c cached
    rw [← steps.entityType] at cached₁ run₁
    rcases bind_cases run₁ with ⟨_, failed, _⟩ | ⟨_, u, createdRest, done⟩
    · exact ih next cached₁ others failed
    obtain ⟨_, rfl⟩ := pure_cases done
    exact ih next cached₁ others createdRest

theorem createBatch_coherent (coherent : s.Coherent tables types) (hosts : Hosts tables types)
    {values : List Record} (kept : ∀ r ∈ values, r.isKept = true)
    {o : Except Error (List Handle)} (run : createBatch typeName values s = (o, s')) :
    s'.Coherent tables types := by
  rcases createBatch_cases coherent.toSound run with ⟨_, _, looks⟩ |
    ⟨c, t, records, cached, named, assigned, looks, ends, made⟩ | ⟨c, cached, named, _, run₁⟩
  · exact coherent.looks hosts looks
  · rw [← named, ← looks.caches] at cached
    refine ends.coherent (coherent.looks hosts looks) hosts assigned (fun r listed => ?_) cached
    rcases made with rfl | ⟨first, rfl⟩
    · exact EntityType.keeps _ (kept r listed)
    · obtain ⟨values, given, n, rfl⟩ := EntityType.mem_numbered listed
      exact (EntityType.keeps _ (kept values given)).withKey (.int n)
  · exact createEach_coherent coherent hosts (by rw [named, cached]) kept run₁

theorem createBatches_coherent (coherent : s.Coherent tables types) (hosts : Hosts tables types)
    {groups : List (String × List (Draft × Nat))}
    (kept : ∀ group ∈ groups, ∀ p ∈ group.2, p.1.values.isKept = true)
    {o : Except Error (List (Nat × Handle))} (run : createBatches groups s = (o, s')) :
    s'.Coherent tables types := by
  induction groups generalizing s s' o with
  | nil =>
    obtain ⟨_, rfl⟩ := pure_cases run
    exact coherent
  | cons group rest ih =>
    have own : ∀ r ∈ group.2.map (·.1.values), r.isKept = true := by
      intro r listed
      obtain ⟨p, member, rfl⟩ := List.mem_map.1 listed
      exact kept group List.mem_cons_self p member
    have others := fun g listed => kept g (List.mem_cons_of_mem _ listed)
    unfold createBatches at run
    rcases bind_cases run with ⟨_, failed, _⟩ | ⟨_, t, created, run₁⟩
    · exact createBatch_coherent coherent hosts own failed
    have next := createBatch_coherent coherent hosts own created
    rcases bind_cases run₁ with ⟨_, failed, _⟩ | ⟨_, u, createdRest, done⟩
    · exact ih next others failed
    obtain ⟨_, rfl⟩ := pure_cases done
    exact ih next others createdRest

theorem persistAll_coherent (coherent : s.Coherent tables types) (hosts : Hosts tables types)
    {drafts : List Draft} (kept : ∀ d ∈ drafts, d.values.isKept = true)
    {o : Except Error (List Handle)} (run : persistAll drafts s = (o, s')) :
    s'.Coherent tables types := by
  unfold persistAll at run
  dsimp only at run
  have placed : ∀ p ∈ drafts.zipIdx, p.1.values.isKept = true := by
    intro p listed
    exact kept p.1 (List.fst_mem_of_mem_zipIdx listed)
  have batched : ∀ group ∈ grouped (·.1.entityType.name)
      (drafts.zipIdx.partition (·.1.isBatchable)).1, ∀ p ∈ group.2, p.1.values.isKept = true := by
    intro group listed p member
    obtain ⟨n, _, rfl⟩ := List.mem_map.1 listed
    have batchable := (List.mem_filter.1 member).1
    rw [List.partition_eq_filter_filter] at batchable
    exact placed p (List.mem_filter.1 batchable).1
  have single : ∀ p ∈ (drafts.zipIdx.partition (·.1.isBatchable)).2, p.1.values.isKept = true := by
    intro p member
    rw [List.partition_eq_filter_filter] at member
    exact placed p (List.mem_filter.1 member).1
  rcases bind_cases run with ⟨_, failed, _⟩ | ⟨_, t, created, run₁⟩
  · exact createBatches_coherent coherent hosts batched failed
  have next := createBatches_coherent coherent hosts batched created
  rcases bind_cases run₁ with ⟨_, failed, _⟩ | ⟨_, u, persisted, done⟩
  · exact persistEach_coherent next hosts single failed
  obtain ⟨_, rfl⟩ := pure_cases done
  exact persistEach_coherent next hosts single persisted

end Session

end IdentityMap
