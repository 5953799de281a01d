import IdentityMap.Proofs.Cache.Changes
import IdentityMap.Proofs.Session.Sequence
import IdentityMap.Proofs.Sql.Together
/-!
# Creating in turn and together

New instances can be created one by one (`Session.CreatesInTurn`) or as a batch. In turn, every
record takes its key, is inserted, and is put into the cache before the next one is looked at; in a
batch the keys are taken first, then all rows go out, then all records are put. Whether the keys
come with the records or from a sequence, the records are the same ones
(`Session.CreatesInTurn.batched`). A batch that breaks a rule is refused before a row goes out
(`Session.createBatch_refused`).
-/

namespace IdentityMap

open Sql IdentityCache

namespace Session

variable {σ : Type} [RowStore σ] {s t u s' : Session σ} {c : IdentityCache} {values record : Record}
  {key : EntityKey} {h : Handle} {last : Int64}

/-! ### One new instance -/

/-- A complete record was inserted with its key, and then put into the cache. -/
structure Made (c : IdentityCache) (record : Record) (key : EntityKey) (s u : Session σ)
    (h : Handle) : Prop where
  carries : c.entityType.keyOf? record = some key
  fits : c.entityType.check record = .ok ()
  ran : ∃ met, RowStore.execute (s.gateway.dialect.insert ⟨c.entityType⟩)
    ((s.gateway.dialect.insert ⟨c.entityType⟩).bind record) s.gateway.rows
      = (.ok met, u.gateway.rows)
  dialect : u.gateway.dialect = s.gateway.dialect
  handle : h = (c.putKeyed key record).1.1
  caches : u.caches = s.caches.insert c.entityType.name (c.putKeyed key record).2
  outbox : u.outbox = s.outbox ++ (c.putKeyed key record).2.putEvents [(c.putKeyed key record).1]
  sequences : u.sequences = s.sequences

theorem Made.cached (made : Made c record key s u h) :
    u.caches.get? c.entityType.name = some (c.putKeyed key record).2 := by
  rw [made.caches, OrderedMap.get?_insert_self]

/-- Where the key is not generated, a record that is ready is inserted and put. -/
theorem create_ready (assigned : c.entityType.assignment ≠ .backend)
    (run : create ⟨c.entityType⟩ values s = (.ok h, u)) :
    ∃ record t, newRecord ⟨c.entityType⟩ values s = (.ok record, t) ∧
      ∀ key, c.entityType.keyOf? record = some key → c.entityType.check record = .ok () →
        t.caches.get? c.entityType.name = some c → Made c record key t u h := by
  unfold create at run
  obtain ⟨record, t, ready, run₁⟩ := bind_ok run
  refine ⟨record, t, ready, fun key carries fits cached => ?_⟩
  have plain := EntityType.keyColumn_plain assigned
  rcases answered : RowStore.execute (t.gateway.dialect.insert ⟨c.entityType⟩)
    ((t.gateway.dialect.insert ⟨c.entityType⟩).bind record) t.gateway.rows with ⟨answer, rows⟩
  have inserted : TableMapping.insertRow ⟨c.entityType⟩ record t.gateway
      = (answer.map fun _ => none,
          { t.gateway with rows, roundTrips := t.gateway.roundTrips + 1 }) := by
    rw [TableMapping.insertRow_eq plain, answered]
  have called := Work.access_eq inserted
  cases answer with
  | error e =>
    rw [bind_of_error called] at run₁
    cases run₁
  | ok met =>
    rw [bind_of_ok called] at run₁
    obtain ⟨h', events, c', merged⟩ := mergeRecord_ok carries
    obtain ⟨key', carries', rfl, rfl, rfl⟩ := mergeRecord_eq_ok merged
    obtain rfl : key = key' := Option.some.inj (carries.symm.trans carries')
    simp only [Work.changeCache, Work.cache_eq_ok.2 cached, Except.bind, merged] at run₁
    cases run₁
    exact ⟨carries, fits, ⟨met, answered⟩, rfl, rfl, rfl, rfl, rfl⟩

theorem create_caller (assigned : c.entityType.assignment = .caller)
    (cached : s.caches.get? c.entityType.name = some c)
    (run : create ⟨c.entityType⟩ values s = (.ok h, u)) : ∃ key, Made c values key s u h := by
  obtain ⟨record, t, ready, made⟩ := create_ready (by simp [assigned]) run
  unfold newRecord at ready
  simp only [assigned] at ready
  obtain ⟨key, carries, ready₁⟩ := Work.ofExcept_bind_ok ready
  obtain ⟨_, fits, done⟩ := Work.ofExcept_bind_ok ready₁
  obtain ⟨rfl, rfl⟩ := pure_ok done
  exact ⟨key, made key (EntityType.requireKey_ok_iff.1 carries) fits cached⟩

/-- A session in which a sequence has handed out a number of keys after `last`. -/
def handedOut (typeName : String) (last : Int64) (count : Nat) (s : Session σ) : Session σ :=
  { s with sequences := s.sequences.insert typeName (last + Int64.ofNat count) }

theorem Made.noted {typeName : String}
    (made : Made c record key (s.handedOut typeName last 1) u h) :
    u.sequences.get? typeName = some (last + 1) := by
  rw [made.sequences]
  exact OrderedMap.get?_insert_self _ _ _

theorem create_sequence (assigned : c.entityType.assignment = .sequence)
    (cached : s.caches.get? c.entityType.name = some c)
    (run : create ⟨c.entityType⟩ values s = (.ok h, u)) :
    c.entityType.rejectKey values = .ok () ∧ ∃ last t, lastKey ⟨c.entityType⟩ s = (.ok last, t) ∧
      Made c (c.entityType.withKey values (.int (last + 1))) (.int (last + 1))
        (t.handedOut c.entityType.name last 1) u h := by
  obtain ⟨record, t, ready, made⟩ := create_ready (by simp [assigned]) run
  unfold newRecord at ready
  simp only [assigned] at ready
  obtain ⟨_, vacant, ready₁⟩ := Work.ofExcept_bind_ok ready
  obtain ⟨first, w, allocated, ready₂⟩ := bind_ok ready₁
  obtain ⟨_, fits, done⟩ := Work.ofExcept_bind_ok ready₂
  obtain ⟨rfl, rfl⟩ := pure_ok done
  have looks := allocateKeys_looks allocated
  rcases found : lastKey ⟨c.entityType⟩ s with ⟨e | last, t⟩
  · unfold allocateKeys at allocated
    rw [bind_of_error found] at allocated
    cases allocated
  · rw [allocateKeys_of_lastKey found] at allocated
    cases allocated
    exact ⟨vacant, last, t, rfl, made _ (by simp [EntityKey.ofValue?]) fits (looks.caches ▸ cached)⟩

/-! ### New instances in turn -/

/-- Instances are created one by one, and triggers are told in between; the events are listed in
order. -/
inductive CreatesInTurn (m : TableMapping) :
    Session σ → List Record → List Handle → List Event → Session σ → Prop
  | nil (s : Session σ) : CreatesInTurn m s [] [] [] s
  | cons {s u s' : Session σ} {values : Record} {rest : List Record} {h : Handle}
    {handles : List Handle} {events : List Event} (created : create m values s = (.ok h, u))
    (others : CreatesInTurn m { u with outbox := [] } rest handles events s') :
    CreatesInTurn m s (values :: rest) (h :: handles) (u.outbox ++ events) s'

theorem CreatesInTurn.length {m : TableMapping} {rest : List Record} {handles : List Handle}
    {events : List Event} (inTurn : CreatesInTurn m s rest handles events s') :
    handles.length = rest.length := by
  induction inTurn with
  | nil s => rfl
  | cons _ _ ih => simp [ih]

/-- Complete records were inserted with their keys and put into the cache, one by one. -/
structure Inserted (c : IdentityCache) (pairs : List (EntityKey × Record)) (s s' : Session σ)
    (handles : List Handle) (events : List Event) : Prop where
  carried : Carried c.entityType pairs
  fit : ∀ p ∈ pairs, c.entityType.check p.2 = .ok ()
  ran : RunsInTurn (s.gateway.dialect.insert ⟨c.entityType⟩)
    ((pairs.map (·.2)).map (s.gateway.dialect.insert ⟨c.entityType⟩).bind)
    s.gateway.rows s'.gateway.rows
  handles : handles = (putAllKeyed pairs c).1.map (·.1)
  caches : s'.caches = s.caches.insert c.entityType.name (putAllKeyed pairs c).2
  events : events = toldInTurn pairs c

namespace Inserted

variable {pairs : List (EntityKey × Record)} {handles : List Handle} {events : List Event}

theorem nil (cached : s.caches.get? c.entityType.name = some c) :
    Inserted c [] s s [] [] :=
  ⟨by simp [Carried], by simp, .nil _, rfl, (OrderedMap.insert_of_get? cached).symm, rfl⟩

theorem cons (made : Made c record key s u h) (none : s.outbox = [])
    (others : Inserted (c.putKeyed key record).2 pairs { u with outbox := [] } s' handles events) :
    Inserted c ((key, record) :: pairs) s s' (h :: handles) (u.outbox ++ events) := by
  obtain ⟨carried, fit, ran, rfl, caches, rfl⟩ := others
  simp only [putKeyed_entityType, made.dialect] at carried fit ran caches
  obtain ⟨met, first⟩ := made.ran
  refine ⟨?_, ?_, .cons first ran, ?_, ?_, ?_⟩
  · intro p listed
    rcases List.mem_cons.1 listed with rfl | listed
    · exact made.carries
    · exact carried p listed
  · intro p listed
    rcases List.mem_cons.1 listed with rfl | listed
    · exact made.fits
    · exact fit p listed
  · rw [putAllKeyed_cons, List.map_cons, made.handle]
  · rw [caches, made.caches, OrderedMap.insert_insert, putAllKeyed_cons]
  · rw [made.outbox, none, List.nil_append, toldInTurn]

/-- Where a sequence stands is of no account for what is inserted and put. -/
theorem handedOut_iff {typeName : String} {count : Nat} :
    Inserted c pairs (s.handedOut typeName last count) s' handles events ↔
      Inserted c pairs s s' handles events := by
  constructor
  all_goals exact fun ⟨carried, fit, ran, same, caches, told⟩ =>
    ⟨carried, fit, ran, same, caches, told⟩

end Inserted

namespace CreatesInTurn

variable {type : EntityType} {rest : List Record} {handles : List Handle} {events : List Event}

theorem caller (inTurn : CreatesInTurn ⟨type⟩ s rest handles events s')
    (assigned : type.assignment = .caller) (own : c.entityType = type)
    (cached : s.caches.get? type.name = some c) (none : s.outbox = []) :
    ∃ pairs, pairs.map (·.2) = rest ∧ Inserted c pairs s s' handles events ∧
      s'.sequences = s.sequences := by
  induction inTurn generalizing c with
  | nil s =>
    subst own
    exact ⟨[], rfl, .nil cached, rfl⟩
  | @cons s u s' values rest h handles events created _ ih =>
    subst own
    obtain ⟨key, made⟩ := create_caller assigned cached created
    have next : u.caches.get? c.entityType.name = some (c.putKeyed key values).2 := by
      rw [made.caches, OrderedMap.get?_insert_self]
    obtain ⟨pairs, rfl, inserted, same⟩ := ih (putKeyed_entityType c key values) next rfl
    exact ⟨(key, values) :: pairs, rfl, .cons made none inserted, same.trans made.sequences⟩

/-- The records took the keys that a batch of `rest` would take from the sequence. -/
structure Numbered (type : EntityType) (last : Int64) (rest : List Record) (c : IdentityCache)
    (pairs : List (EntityKey × Record)) (s s' : Session σ) (handles : List Handle)
    (events : List Event) : Prop where
  records : pairs.map (·.2) = type.numbered (last + 1) rest
  inserted : Inserted c pairs s s' handles events
  sequences : s'.sequences = (s.handedOut type.name last rest.length).sequences

theorem Numbered.cons {pairs : List (EntityKey × Record)}
    (made : Made c (c.entityType.withKey values (.int (last + 1))) (.int (last + 1))
      (s.handedOut c.entityType.name last 1) u h)
    (none : s.outbox = [])
    (others : Numbered c.entityType (last + 1) rest
      (c.putKeyed (.int (last + 1)) (c.entityType.withKey values (.int (last + 1)))).2 pairs
      { u with outbox := [] } s' handles events) :
    Numbered c.entityType last (values :: rest) c
      ((.int (last + 1), c.entityType.withKey values (.int (last + 1))) :: pairs) s s'
      (h :: handles) (u.outbox ++ events) where
  records := by rw [List.map_cons, others.records, EntityType.numbered]
  inserted := Inserted.handedOut_iff.1 (.cons made none others.inserted)
  sequences := by
    have after : last + 1 + Int64.ofNat rest.length = last + Int64.ofNat (rest.length + 1) := by
      rw [Int64.ofNat_add, Int64.add_assoc, Int64.add_comm 1]
      rfl
    rw [others.sequences]
    simp only [handedOut, made.sequences, OrderedMap.insert_insert, after, List.length_cons]

/-- The records of a sequence that has started get their keys one after the other. -/
theorem continued (inTurn : CreatesInTurn ⟨type⟩ s rest handles events s')
    (assigned : type.assignment = .sequence) (own : c.entityType = type)
    (cached : s.caches.get? type.name = some c) (none : s.outbox = [])
    (noted : s.sequences.get? type.name = some last) :
    (∀ r ∈ rest, type.rejectKey r = .ok ()) ∧
      ∃ pairs, Numbered type last rest c pairs s s' handles events := by
  induction inTurn generalizing c last with
  | nil s =>
    subst own
    refine ⟨by simp, [], rfl, .nil cached, (OrderedMap.insert_of_get? ?_).symm⟩
    simpa using noted
  | cons created others ih =>
    subst own
    obtain ⟨vacant, last', t, found, made⟩ := create_sequence assigned cached created
    rw [lastKey_of_some noted] at found
    cases found
    obtain ⟨vacantRest, pairs, numbered⟩ :=
      ih (putKeyed_entityType c _ _) made.cached rfl made.noted
    exact ⟨by simpa using ⟨vacant, vacantRest⟩, _, .cons made none numbered⟩

/-! ### New instances together -/

/-- A batch of the same values inserts the records of what was created in turn, and does so from the
session `t`. -/
structure Batched (c : IdentityCache) (rest : List Record) (pairs : List (EntityKey × Record))
    (s t s' : Session σ) (handles : List Handle) (events : List Event) : Prop where
  looks : Looks s t
  dialect : t.gateway.dialect = s.gateway.dialect
  together : (pairs.map (·.1)).Nodup → createBatch c.entityType.name rest s
    = insertTogether ⟨c.entityType⟩ (pairs.map (·.2)) t
  inserted : Inserted c pairs t s' handles events
  sequences : s'.sequences = t.sequences

theorem batched (inTurn : CreatesInTurn ⟨c.entityType⟩ s rest handles events s') (sound : s.Sound)
    (assigned : c.entityType.assignment ≠ .backend)
    (cached : s.caches.get? c.entityType.name = some c) (none : s.outbox = []) (some : rest ≠ []) :
    ∃ pairs t, Batched c rest pairs s t s' handles events := by
  have resolved := sound.resolve_ok cached
  cases kind : c.entityType.assignment with
  | backend => exact absurd kind assigned
  | caller =>
    obtain ⟨pairs, rfl, inserted, same⟩ := inTurn.caller kind rfl cached none
    refine ⟨pairs, s, .refl s, rfl, fun once => ?_, inserted, same⟩
    have carried : (pairs.map (·.2)).map c.entityType.keyOf? = (pairs.map (·.1)).map .some := by
      rw [List.map_map, List.map_map]
      exact List.map_congr_left inserted.carried
    unfold createBatch
    rw [bind_of_ok resolved]
    simp only [kind]
    rw [EntityType.requireKeys_ok carried once (by simp), Work.ofExcept_ok_bind]
  | sequence =>
    cases inTurn with
    | nil => exact absurd rfl some
    | @cons _ u _ values rest h handles events created others =>
      obtain ⟨vacant, last, t, found, made⟩ := create_sequence kind cached created
      obtain ⟨vacantRest, pairs, numbered⟩ :=
        others.continued kind (putKeyed_entityType c _ _) made.cached rfl made.noted
      have all := numbered.cons made ((lastKey_looks found).outbox.trans none)
      have dialect := lastKey_dialect found
      have allocated := allocateKeys_of_lastKey found (values :: rest).length
      have allVacant : c.entityType.rejectKeys (values :: rest) = .ok () :=
        EntityType.rejectKeys_ok_iff.2 (by simpa using ⟨vacant, vacantRest⟩)
      refine ⟨_, _, allocateKeys_looks allocated, dialect, fun _ => ?_,
        Inserted.handedOut_iff.2 all.inserted, all.sequences⟩
      unfold createBatch
      rw [bind_of_ok resolved]
      simp only [kind]
      rw [allVacant, Work.ofExcept_ok_bind, bind_of_ok allocated, all.records]

end CreatesInTurn

/-- Complete records whose rows are taken are cached, and told of at the end. -/
theorem insertTogether_made {pairs : List (EntityKey × Record)} {n : Nat} {g : Gateway σ}
    (cached : s.caches.get? c.entityType.name = some c) (carried : Carried c.entityType pairs)
    (fit : ∀ p ∈ pairs, c.entityType.check p.2 = .ok ())
    (taken : TableMapping.insertRows ⟨c.entityType⟩ (pairs.map (·.2)) s.settings.batchSize s.gateway
      = (.ok n, g)) :
    insertTogether ⟨c.entityType⟩ (pairs.map (·.2)) s
      = (.ok ((putAllKeyed pairs c).1.map (·.1)), { s with
          gateway := g
          caches := s.caches.insert c.entityType.name (putAllKeyed pairs c).2
          outbox := s.outbox ++ (putAllKeyed pairs c).2.putEvents (putAllKeyed pairs c).1 }) := by
  have passed : c.entityType.checkAll (pairs.map (·.2)) = .ok () :=
    EntityType.checkAll_ok_iff.2 (by simpa using fun r key listed => fit (key, r) listed)
  unfold insertTogether
  rw [Work.get_bind, passed, Work.ofExcept_ok_bind, bind_of_ok (Work.access_eq taken)]
  simp only [Work.changeCache, Work.cache_eq_ok.2 cached, Except.bind, mergeRecords, putAll,
    keyed_of_carried carried, Except.map]

/-! ### Batches that break a rule -/

end Session

/-- The values of a new instance keep the rules of the type. Where the store assigns the keys the
fields are judged with some key put in. -/
def EntityType.Admits (t : EntityType) (values : Record) : Prop :=
  match t.assignment with
  | .caller => (∃ key, t.keyOf? values = some key) ∧ t.check values = .ok ()
  | .backend => t.rejectKey values = .ok () ∧ t.check (t.withKey values (.int 0)) = .ok ()
  | .sequence => t.rejectKey values = .ok () ∧
    ∃ key : Int64, t.check (t.withKey values (.int key)) = .ok ()

namespace Session

variable {σ : Type} [RowStore σ] {s s' : Session σ} {c : IdentityCache} {values : List Record}

/-- The values of a batch keep the rules together: as complete records they fit the type, and where
callers assign the keys no two of them bring the same one. -/
inductive Ready (s : Session σ) (t : EntityType) (values : List Record) : List Record → Prop
  | caller (keys : List EntityKey) (assigned : t.assignment = .caller)
    (carried : values.map t.keyOf? = keys.map some) (once : keys.Nodup)
    (fit : ∀ r ∈ values, t.check r = .ok ()) : Ready s t values values
  | sequence (first : Int64) (assigned : t.assignment = .sequence)
    (vacant : ∀ r ∈ values, t.rejectKey r = .ok ())
    (next : (allocateKeys ⟨t⟩ values.length s).1 = .ok first)
    (fit : ∀ r ∈ t.numbered first values, t.check r = .ok ()) :
    Ready s t values (t.numbered first values)

/-- What a batch keeps, every instance of it keeps. -/
theorem Ready.admits {t : EntityType} {records : List Record} (ready : Ready s t values records) :
    ∀ r ∈ values, t.Admits r := by
  intro r listed
  unfold EntityType.Admits
  cases ready with
  | caller keys assigned carried once fit =>
    simp only [assigned]
    have own : t.keyOf? r ∈ keys.map some := carried ▸ List.mem_map_of_mem listed
    obtain ⟨key, _, same⟩ := List.mem_map.1 own
    exact ⟨⟨key, same.symm⟩, fit r listed⟩
  | sequence first assigned vacant next fit =>
    simp only [assigned]
    obtain ⟨n, member⟩ := t.numbered_mem first listed
    exact ⟨vacant r listed, n, fit _ member⟩

theorem insertTogether_refused {m : TableMapping} {e : Error} {records : List Record}
    (unfit : m.entityType.checkAll records = .error e) :
    insertTogether m records s = (.error e, s) := by
  unfold insertTogether
  rw [Work.get_bind, unfit, Work.ofExcept_error_bind]

/-- A batch that does not keep the rules fails, and nothing is sent to the row store but the query
for the largest key. -/
theorem createBatch_refused (sound : s.Sound)
    (cached : s.caches.get? c.entityType.name = some c)
    (assigned : c.entityType.assignment ≠ .backend)
    (unready : ¬ ∃ records, Ready s c.entityType values records) :
    ∃ e u, createBatch c.entityType.name values s = (.error e, u) ∧
      RowStore.Sends (· = .maxKey c.entityType.table c.entityType.key.column)
        s.gateway.rows u.gateway.rows := by
  unfold createBatch
  rw [bind_of_ok (sound.resolve_ok cached)]
  cases kind : c.entityType.assignment with
  | backend => exact absurd kind assigned
  | caller =>
    simp only [kind]
    cases required : c.entityType.requireKeys [] values with
    | error e => exact ⟨e, s, Work.ofExcept_error_bind, .refl _⟩
    | ok _ =>
      rw [Work.ofExcept_ok_bind]
      cases checked : c.entityType.checkAll values with
      | error e => exact ⟨e, s, insertTogether_refused checked, .refl _⟩
      | ok _ =>
        obtain ⟨keys, carried, once, _⟩ := EntityType.keys_of_requireKeys required
        have fit := EntityType.checkAll_ok_iff.1 checked
        exact absurd ⟨values, .caller keys kind carried once fit⟩ unready
  | sequence =>
    simp only [kind]
    cases rejected : c.entityType.rejectKeys values with
    | error e => exact ⟨e, s, Work.ofExcept_error_bind, .refl _⟩
    | ok _ =>
      rw [Work.ofExcept_ok_bind]
      have sent := allocateKeys_sends ⟨c.entityType⟩ values.length s
      rcases allocated : allocateKeys ⟨c.entityType⟩ values.length s with ⟨e | first, t⟩
      · rw [allocated] at sent
        exact ⟨e, t, bind_of_error allocated, sent⟩
      · rw [allocated] at sent
        rw [bind_of_ok allocated]
        cases checked : c.entityType.checkAll (c.entityType.numbered first values) with
        | error e => exact ⟨e, t, insertTogether_refused checked, sent⟩
        | ok _ =>
          have vacant := EntityType.rejectKeys_ok_iff.1 rejected
          have fit := EntityType.checkAll_ok_iff.1 checked
          exact absurd ⟨_, .sequence first kind vacant (by rw [allocated]) fit⟩ unready

end Session

end IdentityMap
