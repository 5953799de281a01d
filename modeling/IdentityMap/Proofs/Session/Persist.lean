import IdentityMap.Proofs.Keys
import IdentityMap.Proofs.Session.Lookup
/-!
# The outcomes of persisting a draft

A draft is refused, or its row is written and then cached. Up to the write the session is only read
from. Once the row store has taken the row nothing fails any more, because the checks before the
write make sure that the record carries its key. The one change of a cache that goes with an error
is the eviction of a key whose row is found to be gone.
-/

namespace IdentityMap.Session

variable {σ : Type} [RowStore σ] {s s' : Session σ} {m : TableMapping}

/-! ### New records -/

theorem lastKey_looks {o : Except Error Int64} (run : lastKey m s = (o, s')) : Looks s s' := by
  unfold lastKey at run
  rcases bind_cases run with ⟨e, failed, _⟩ | ⟨now, t, read, run₁⟩
  · cases failed
  cases read
  cases noted : s.sequences.get? m.entityType.name with
  | some last =>
    simp only [noted] at run₁
    obtain ⟨_, rfl⟩ := pure_cases run₁
    exact .refl s
  | none =>
    simp only [noted] at run₁
    rcases Work.access_bind run₁ with ⟨e, _, failed, quiet⟩ | ⟨largest, t, asked, quiet, done⟩
    · exact ⟨quiet, TableMapping.largestKey_reads failed⟩
    · obtain ⟨_, rfl⟩ := pure_cases done
      exact ⟨quiet, TableMapping.largestKey_reads asked⟩

theorem allocateKeys_looks {count : Nat} {o : Except Error Int64}
    (run : allocateKeys m count s = (o, s')) : Looks s s' := by
  unfold allocateKeys at run
  rcases bind_cases run with ⟨e, failed, _⟩ | ⟨last, t, seeded, run₁⟩
  · exact lastKey_looks failed
  rcases bind_cases run₁ with ⟨e, failed, _⟩ | ⟨_, u, advanced, done⟩
  · cases failed
  obtain ⟨_, rfl⟩ := pure_cases done
  refine (lastKey_looks seeded).trans ?_
  cases advanced
  exact ⟨⟨rfl, rfl, rfl, rfl⟩, .refl _⟩

/-- What is certain of a record that may be inserted for the values of a draft. -/
inductive Prepared (t : EntityType) (values : Record) : Record → Prop
  | caller (key : EntityKey) (assigned : t.assignment = .caller)
    (carries : t.keyOf? values = some key) (fits : t.check values = .ok ()) :
    Prepared t values values
  | backend (assigned : t.assignment = .backend)
    (fits : t.check (t.withKey values (.int 0)) = .ok ()) : Prepared t values values
  | sequence (key : Int64) (assigned : t.assignment = .sequence)
    (fits : t.check (t.withKey values (.int key)) = .ok ()) :
    Prepared t values (t.withKey values (.int key))

theorem newRecord_cases {values : Record} {o : Except Error Record}
    (run : newRecord m values s = (o, s')) :
    Looks s s' ∧ ∀ record, o = .ok record → Prepared m.entityType values record := by
  unfold newRecord at run
  dsimp only at run
  cases assigned : m.entityType.assignment with
  | caller =>
    simp only [assigned] at run
    rcases Work.ofExcept_bind run with ⟨e, rfl, _, rfl⟩ | ⟨key, carries, run₁⟩
    · exact ⟨.refl _, by simp⟩
    rcases Work.ofExcept_bind run₁ with ⟨e, rfl, _, rfl⟩ | ⟨_, fits, done⟩
    · exact ⟨.refl _, by simp⟩
    obtain ⟨rfl, rfl⟩ := pure_cases done
    refine ⟨.refl _, fun record made => ?_⟩
    cases made
    exact .caller key assigned (EntityType.requireKey_ok_iff.1 carries) fits
  | backend =>
    simp only [assigned] at run
    rcases Work.ofExcept_bind run with ⟨e, rfl, _, rfl⟩ | ⟨_, _, run₁⟩
    · exact ⟨.refl _, by simp⟩
    rcases Work.ofExcept_bind run₁ with ⟨e, rfl, _, rfl⟩ | ⟨_, fits, done⟩
    · exact ⟨.refl _, by simp⟩
    obtain ⟨rfl, rfl⟩ := pure_cases done
    refine ⟨.refl _, fun record made => ?_⟩
    cases made
    exact .backend assigned fits
  | sequence =>
    simp only [assigned] at run
    rcases Work.ofExcept_bind run with ⟨e, rfl, _, rfl⟩ | ⟨_, _, run₁⟩
    · exact ⟨.refl _, by simp⟩
    rcases bind_cases run₁ with ⟨e, failed, rfl⟩ | ⟨key, t, allocated, run₂⟩
    · exact ⟨allocateKeys_looks failed, by simp⟩
    have looks := allocateKeys_looks allocated
    rcases Work.ofExcept_bind run₂ with ⟨e, rfl, _, rfl⟩ | ⟨_, fits, done⟩
    · exact ⟨looks, by simp⟩
    obtain ⟨rfl, rfl⟩ := pure_cases done
    refine ⟨looks, fun record made => ?_⟩
    cases made
    exact .sequence key assigned fits

/-! ### Creating -/

/-- An inserted record with the key that was generated for its row. -/
def complete (t : EntityType) (record : Record) : Option EntityKey → Record
  | some key => t.withKey record key.toValue
  | none => record

/-- Once its row is inserted every prepared record has a key. -/
theorem Prepared.carries {t : EntityType} {values record : Record} {g g' : Gateway σ}
    {generated : Option EntityKey} (prepared : Prepared t values record)
    (inserted : TableMapping.insertRow ⟨t⟩ record g = (.ok generated, g')) :
    ∃ key, t.keyOf? (complete t record generated) = some key := by
  have kind := t.keyColumn_generated
  rcases TableMapping.insertRow_cases inserted with ⟨plain, answer, _, same⟩ |
    ⟨generates, answer, _, same⟩
  · cases answer with
    | error e => cases same
    | ok n =>
      cases same
      rw [kind] at plain
      cases prepared with
      | caller key assigned carries fits => exact ⟨key, carries⟩
      | backend assigned fits => simp [assigned] at plain
      | sequence key assigned fits =>
        exact ⟨.int key, by simp [complete, EntityKey.ofValue?]⟩
  · cases read : answer.bind (TableMapping.reportedKey ⟨t⟩) with
    | error e => simp [read, Except.map] at same
    | ok key =>
      simp only [read, Except.map, Except.ok.injEq] at same
      subst same
      exact ⟨key, by simp [complete]⟩

/-- The ways in which the creation of one instance ends. -/
inductive CreateEnds (s s' : Session σ) (c : IdentityCache) (values : Record) :
    Except Error Handle → Prop
  | refused (e : Error) (looks : Looks s s') : CreateEnds s s' c values (.error e)
  | uninserted {t : Session σ} {record : Record} (e : Error) (looks : Looks s t)
    (prepared : Prepared c.entityType values record)
    (failed : TableMapping.insertRow ⟨c.entityType⟩ record t.gateway = (.error e, s'.gateway))
    (quiet : Quiet s s') : CreateEnds s s' c values (.error e)
  | inserted {t : Session σ} {record : Record} {generated : Option EntityKey}
    {events : List Event} {c' : IdentityCache} (h : Handle) (looks : Looks s t)
    (prepared : Prepared c.entityType values record)
    (inserted : TableMapping.insertRow ⟨c.entityType⟩ record t.gateway
      = (.ok generated, s'.gateway))
    (merged : c.mergeRecord (complete c.entityType record generated) = .ok ((h, events), c'))
    (alters : Alters s s' c.entityType.name c c' events) : CreateEnds s s' c values (.ok h)

theorem create_ends {c : IdentityCache} {values : Record} {o : Except Error Handle}
    (cached : s.caches.get? c.entityType.name = some c)
    (run : create ⟨c.entityType⟩ values s = (o, s')) : CreateEnds s s' c values o := by
  unfold create at run
  rcases bind_cases run with ⟨e, failed, rfl⟩ | ⟨record, t, made, run₁⟩
  · exact .refused e (newRecord_cases failed).1
  obtain ⟨looks, prepared⟩ := newRecord_cases made
  have prepared := prepared record rfl
  rcases Work.access_bind run₁ with ⟨e, rfl, failed, quiet⟩ | ⟨generated, u, inserted, quiet, run₂⟩
  · exact .uninserted e looks prepared failed (looks.toQuiet.trans quiet)
  have before := looks.toQuiet.trans quiet
  obtain ⟨key, carries⟩ := prepared.carries inserted
  obtain ⟨h, events, c', merged⟩ := IdentityCache.mergeRecord_ok carries
  have still : u.caches.get? c.entityType.name = some c := by rw [before.caches, cached]
  have run₃ : Work.changeCache c.entityType.name
      (fun c₁ => c₁.mergeRecord (complete c.entityType record generated)) u = (o, s') := by
    cases generated <;> exact run₂
  obtain ⟨rfl, same, alters⟩ := Work.changeCache_made still merged run₃
  exact .inserted h looks prepared (same ▸ inserted) merged (before.alters alters)

/-! ### Creating together -/

/-- The ways in which the joint insertion of complete records ends. -/
inductive InsertEnds (s s' : Session σ) (c : IdentityCache) (records : List Record) :
    Except Error (List Handle) → Prop
  | refused (e : Error) (looks : Looks s s') : InsertEnds s s' c records (.error e)
  | uninserted (e : Error) (fit : ∀ r ∈ records, c.entityType.check r = .ok ())
    (failed : TableMapping.insertRows ⟨c.entityType⟩ records s.settings.batchSize s.gateway
      = (.error e, s'.gateway))
    (quiet : Quiet s s') : InsertEnds s s' c records (.error e)
  | inserted {n : Nat} {events : List Event} {c' : IdentityCache} (handles : List Handle)
    (fit : ∀ r ∈ records, c.entityType.check r = .ok ())
    (inserted : TableMapping.insertRows ⟨c.entityType⟩ records s.settings.batchSize s.gateway
      = (.ok n, s'.gateway))
    (merged : c.mergeRecords records = .ok ((handles, events), c'))
    (alters : Alters s s' c.entityType.name c c' events) : InsertEnds s s' c records (.ok handles)

theorem insertTogether_ends {c : IdentityCache} {records : List Record}
    {o : Except Error (List Handle)} (cached : s.caches.get? c.entityType.name = some c)
    (keyed : ∀ r ∈ records, ∃ key, c.entityType.keyOf? r = some key)
    (run : insertTogether ⟨c.entityType⟩ records s = (o, s')) : InsertEnds s s' c records o := by
  unfold insertTogether at run
  rcases bind_cases run with ⟨e, failed, _⟩ | ⟨now, t, read, run₁⟩
  · cases failed
  cases read
  rcases Work.ofExcept_bind run₁ with ⟨e, rfl, _, rfl⟩ | ⟨_, passed, run₂⟩
  · exact .refused e (.refl _)
  have fit := EntityType.checkAll_ok_iff.1 passed
  rcases Work.access_bind run₂ with ⟨e, rfl, failed, quiet⟩ | ⟨n, t, inserted, quiet, run₃⟩
  · exact .uninserted e fit failed quiet
  obtain ⟨handles, events, c', merged⟩ := IdentityCache.mergeRecords_ok keyed
  have still : t.caches.get? c.entityType.name = some c := by rw [quiet.caches, cached]
  obtain ⟨rfl, same, alters⟩ := Work.changeCache_made still merged run₃
  exact .inserted handles fit (same ▸ inserted) merged (quiet.alters alters)

/-- A batch of one type is refused, inserted together, or, where the row store assigns the keys,
created one by one. -/
theorem createBatch_cases (sound : s.Sound) {typeName : String} {values : List Record}
    {o : Except Error (List Handle)} (run : createBatch typeName values s = (o, s')) :
    (∃ e, o = .error e ∧ Looks s s') ∨
    (∃ c t records, s.caches.get? typeName = some c ∧ c.entityType.name = typeName ∧
      c.entityType.assignment ≠ .backend ∧ Looks s t ∧ InsertEnds t s' c records o ∧
      (records = values ∨ ∃ first, records = c.entityType.numbered first values)) ∨
    ∃ c, s.caches.get? typeName = some c ∧ c.entityType.name = typeName ∧
      c.entityType.assignment = .backend ∧ createEach ⟨c.entityType⟩ values s = (o, s') := by
  unfold createBatch at run
  rcases sound.resolve_bind run with ⟨e, rfl, rfl⟩ | ⟨c, cached, mapped, named, run₁⟩
  · exact .inl ⟨e, rfl, .refl _⟩
  subst named
  cases assigned : c.entityType.assignment with
  | caller =>
    simp only [assigned] at run₁
    rcases Work.ofExcept_bind run₁ with ⟨e, rfl, _, rfl⟩ | ⟨_, passed, run₂⟩
    · exact .inl ⟨e, rfl, .refl _⟩
    obtain ⟨keys, carried, _, _⟩ := EntityType.keys_of_requireKeys passed
    have keyed : ∀ r ∈ values, ∃ key, c.entityType.keyOf? r = some key := by
      intro r member
      have listed : c.entityType.keyOf? r ∈ keys.map some := carried ▸ List.mem_map_of_mem member
      obtain ⟨key, _, same⟩ := List.mem_map.1 listed
      exact ⟨key, same.symm⟩
    exact .inr (.inl ⟨c, s, values, cached, rfl, by simp [assigned], .refl s,
      insertTogether_ends cached keyed run₂, .inl rfl⟩)
  | sequence =>
    simp only [assigned] at run₁
    rcases Work.ofExcept_bind run₁ with ⟨e, rfl, _, rfl⟩ | ⟨_, _, run₂⟩
    · exact .inl ⟨e, rfl, .refl _⟩
    rcases bind_cases run₂ with ⟨e, failed, rfl⟩ | ⟨first, t, allocated, run₃⟩
    · exact .inl ⟨e, rfl, allocateKeys_looks failed⟩
    have looks := allocateKeys_looks allocated
    have still : t.caches.get? c.entityType.name = some c := by rw [looks.caches, cached]
    have keyed : ∀ r ∈ c.entityType.numbered first values,
        ∃ key, c.entityType.keyOf? r = some key := by
      intro r member
      obtain ⟨_, _, n, rfl⟩ := EntityType.mem_numbered member
      exact ⟨.int n, by simp [EntityKey.ofValue?]⟩
    exact .inr (.inl ⟨c, t, _, cached, rfl, by simp [assigned], looks,
      insertTogether_ends still keyed run₃, .inr ⟨first, rfl⟩⟩)
  | backend =>
    simp only [assigned] at run₁
    exact .inr (.inr ⟨c, cached, rfl, assigned, run₁⟩)

/-! ### Modifying -/

/-- The record that a change is laid over: the cached one, or the first row that a query for the
key brings. -/
inductive Base (s t : Session σ) (c : IdentityCache) (key : EntityKey) : Record → Prop
  | cached (i : Instance) (found : c.get? key = some i) (same : s = t) : Base s t c key i.record
  | fetched (r : Record) (others : List Record) (missing : c.get? key = none)
    (fetched : TableMapping.fetchKeys ⟨c.entityType⟩ [key] s.gateway
      = (.ok (r :: others), t.gateway))
    (quiet : Quiet s t) : Base s t c key r

theorem Base.looks {t : Session σ} {c : IdentityCache} {key : EntityKey} {base : Record}
    (found : Base s t c key base) : Looks s t := by
  cases found with
  | cached i found same => exact same ▸ .refl s
  | fetched _ others missing fetched quiet =>
    exact ⟨quiet, (TableMapping.fetchKeys_cases fetched).1⟩

theorem baseRecord_cases {c : IdentityCache} {key : EntityKey} {o : Except Error Record}
    (run : baseRecord c ⟨c.entityType⟩ key s = (o, s')) :
    (∃ e, o = .error e ∧ Looks s s') ∨ ∃ base, o = .ok base ∧ Base s s' c key base := by
  unfold baseRecord at run
  cases found : c.get? key with
  | some i =>
    simp only [found] at run
    obtain ⟨rfl, rfl⟩ := pure_cases run
    exact .inr ⟨_, rfl, .cached i found rfl⟩
  | none =>
    simp only [found] at run
    rcases Work.access_bind run with ⟨e, rfl, failed, quiet⟩ | ⟨records, t, fetched, quiet, run₁⟩
    · exact .inl ⟨e, rfl, quiet, (TableMapping.fetchKeys_cases failed).1⟩
    cases records with
    | nil =>
      obtain ⟨rfl, rfl⟩ := throw_cases run₁
      exact .inl ⟨_, rfl, quiet, (TableMapping.fetchKeys_cases fetched).1⟩
    | cons r others =>
      obtain ⟨rfl, rfl⟩ := pure_cases run₁
      exact .inr ⟨r, rfl, .fetched r others found fetched quiet⟩

/-- The record that a change writes. -/
def changed (t : EntityType) (base values : Record) (key : EntityKey) : Record :=
  t.withKey (base.merge values) key.toValue

/-- Lay a change over what there is and write it. -/
def overwrite (c : IdentityCache) (key : EntityKey) (values : Record) : Work σ Handle := do
  let base ← baseRecord c ⟨c.entityType⟩ key
  let record := changed c.entityType base values key
  Work.ofExcept (c.entityType.check record)
  let met ← Work.access (TableMapping.updateRow ⟨c.entityType⟩ record)
  if met = 0 then
    let present ← Work.access (TableMapping.rowExists ⟨c.entityType⟩ key)
    if !present then
      Work.changeCache c.entityType.name fun c => .ok (c.evict key)
      throw (c.entityType.notFound key)
  Work.changeCache c.entityType.name fun c => c.mergeChange base record

/-- A draft that names the key names the right one. -/
def NamesKey (t : EntityType) (values : Record) (key : EntityKey) : Prop :=
  ∀ v, values.get? t.key.name = some v → EntityKey.ofValue? v = some key

/-- A change is refused, unless its draft names the right key or none. -/
theorem modify_eq (c : IdentityCache) (key : EntityKey) (values : Record) (s : Session σ) :
    (¬ NamesKey c.entityType values key ∧
      modify c ⟨c.entityType⟩ key values s
        = (.error (.illegal (.changedKey c.entityType.name key.display)), s)) ∨
    (NamesKey c.entityType values key ∧
      modify c ⟨c.entityType⟩ key values s = overwrite c key values s) := by
  unfold modify NamesKey
  dsimp only
  cases given : values.get? c.entityType.key.name with
  | none => exact .inr ⟨by simp, rfl⟩
  | some v =>
    by_cases right : EntityKey.ofValue? v = some key
    · refine .inr ⟨by simpa using right, ?_⟩
      simp only [right, ne_eq, not_true_eq_false, if_false]
      rfl
    · refine .inl ⟨by simpa using right, ?_⟩
      simp only [ne_eq, right, not_false_eq_true, if_true]
      rfl

/-- A change has got as far as its statement. -/
structure Begun (s t : Session σ) (c : IdentityCache) (key : EntityKey) (values base : Record) :
    Prop where
  named : NamesKey c.entityType values key
  looked : baseRecord c ⟨c.entityType⟩ key s = (.ok base, t)
  fits : c.entityType.check (changed c.entityType base values key) = .ok ()

theorem Begun.base {t : Session σ} {c : IdentityCache} {key : EntityKey} {values base : Record}
    (begun : Begun s t c key values base) : Base s t c key base := by
  rcases baseRecord_cases begun.looked with ⟨_, impossible, _⟩ | ⟨_, same, found⟩
  · cases impossible
  · cases same
    exact found

/-- The ways in which a change ends. Only where the row is gone an error comes with a change of the
cache. -/
inductive ModifyEnds (s s' : Session σ) (c : IdentityCache) (key : EntityKey) (values : Record) :
    Except Error Handle → Prop
  | refused (e : Error) (looks : Looks s s') : ModifyEnds s s' c key values (.error e)
  | unwritten {t : Session σ} {base : Record} (e : Error) (begun : Begun s t c key values base)
    (failed : TableMapping.updateRow ⟨c.entityType⟩ (changed c.entityType base values key) t.gateway
      = (.error e, s'.gateway))
    (quiet : Quiet s s') : ModifyEnds s s' c key values (.error e)
  | unconfirmed {t : Session σ} {base : Record} {g : Gateway σ} (e : Error)
    (begun : Begun s t c key values base)
    (unmet : TableMapping.updateRow ⟨c.entityType⟩ (changed c.entityType base values key) t.gateway
      = (.ok 0, g))
    (reads : Gateway.Reads g s'.gateway) (quiet : Quiet s s') :
    ModifyEnds s s' c key values (.error e)
  | gone {t : Session σ} {base : Record} {g : Gateway σ} (begun : Begun s t c key values base)
    (unmet : TableMapping.updateRow ⟨c.entityType⟩ (changed c.entityType base values key) t.gateway
      = (.ok 0, g))
    (missing : TableMapping.rowExists ⟨c.entityType⟩ key g = (.ok false, s'.gateway))
    (alters : Alters s s' c.entityType.name c (c.evict key).2 (c.evict key).1.2) :
    ModifyEnds s s' c key values (.error (c.entityType.notFound key))
  | written {t : Session σ} {base : Record} {met : Nat} {g : Gateway σ} {events : List Event}
    {c' : IdentityCache} (h : Handle) (begun : Begun s t c key values base)
    (updated : TableMapping.updateRow ⟨c.entityType⟩ (changed c.entityType base values key)
      t.gateway = (.ok met, g))
    (present : met ≠ 0 ∧ g = s'.gateway ∨
      met = 0 ∧ TableMapping.rowExists ⟨c.entityType⟩ key g = (.ok true, s'.gateway))
    (merged : c.mergeChange base (changed c.entityType base values key)
      = .ok ((h, events), c'))
    (alters : Alters s s' c.entityType.name c c' events) : ModifyEnds s s' c key values (.ok h)

/-- A change that the row store has taken is merged. -/
theorem mergeChange_ends {t u : Session σ} {c : IdentityCache} {base values : Record}
    {key : EntityKey} {met : Nat} {g : Gateway σ} {o : Except Error Handle}
    (cached : s.caches.get? c.entityType.name = some c) (begun : Begun s t c key values base)
    (updated : TableMapping.updateRow ⟨c.entityType⟩ (changed c.entityType base values key)
      t.gateway = (.ok met, g))
    (present : met ≠ 0 ∧ g = u.gateway ∨
      met = 0 ∧ TableMapping.rowExists ⟨c.entityType⟩ key g = (.ok true, u.gateway))
    (quiet : Quiet s u)
    (run : Work.changeCache c.entityType.name
      (fun c₁ => c₁.mergeChange base (changed c.entityType base values key)) u = (o, s')) :
    ModifyEnds s s' c key values o := by
  have carries : c.entityType.keyOf? (changed c.entityType base values key) = some key := by
    simp [changed]
  obtain ⟨h, events, c', merged⟩ := IdentityCache.mergeChange_ok base carries
  have still : u.caches.get? c.entityType.name = some c := by rw [quiet.caches, cached]
  obtain ⟨rfl, same, alters⟩ := Work.changeCache_made still merged run
  exact .written h begun updated (same ▸ present) merged (quiet.alters alters)

omit [RowStore σ] in
/-- A key whose row is gone is evicted, and the change fails. -/
theorem evict_cases {u : Session σ} {c : IdentityCache} {key : EntityKey} {o : Except Error Handle}
    {rest : Work σ Handle} (cached : s.caches.get? c.entityType.name = some c) (quiet : Quiet s u)
    (run : (do
      Work.changeCache c.entityType.name fun c => .ok (c.evict key)
      let _ ← (throw (c.entityType.notFound key) : Work σ Unit)
      rest) u = (o, s')) :
    o = .error (c.entityType.notFound key) ∧ s'.gateway = u.gateway ∧
      Alters s s' c.entityType.name c (c.evict key).2 (c.evict key).1.2 := by
  have still : u.caches.get? c.entityType.name = some c := by rw [quiet.caches, cached]
  rcases bind_cases run with ⟨e, failed, _⟩ | ⟨_, w, evicted, run₁⟩
  · cases (Work.changeCache_made still rfl failed).1
  obtain ⟨_, same, alters⟩ := Work.changeCache_made still rfl evicted
  rcases bind_cases run₁ with ⟨e, failed, rfl⟩ | ⟨_, _, impossible, _⟩
  · obtain ⟨thrown, rfl⟩ := throw_cases failed
    cases thrown
    exact ⟨rfl, same, quiet.alters alters⟩
  · cases (throw_cases impossible).1

theorem modify_ends {c : IdentityCache} {key : EntityKey} {values : Record}
    {o : Except Error Handle} (cached : s.caches.get? c.entityType.name = some c)
    (run : modify c ⟨c.entityType⟩ key values s = (o, s')) : ModifyEnds s s' c key values o := by
  rcases modify_eq c key values s with ⟨_, refused⟩ | ⟨named, same⟩
  · rw [refused] at run
    cases run
    exact .refused _ (.refl s)
  rw [same] at run
  unfold overwrite at run
  rcases bind_cases run with ⟨e, failed, rfl⟩ | ⟨base, t, looked, run₁⟩
  · rcases baseRecord_cases failed with ⟨_, _, looks⟩ | ⟨_, impossible, _⟩
    · exact .refused e looks
    · cases impossible
  have looks : Looks s t := by
    rcases baseRecord_cases looked with ⟨_, impossible, _⟩ | ⟨_, _, found⟩
    · cases impossible
    · exact found.looks
  rcases Work.ofExcept_bind run₁ with ⟨e, rfl, _, rfl⟩ | ⟨_, passed, run₂⟩
  · exact .refused e looks
  have begun : Begun s t c key values base := ⟨named, looked, passed⟩
  rcases Work.access_bind run₂ with ⟨e, rfl, failed, quiet⟩ | ⟨met, u, updated, quiet, run₃⟩
  · exact .unwritten e begun failed (looks.toQuiet.trans quiet)
  have before := looks.toQuiet.trans quiet
  split at run₃
  · rename_i unmet
    subst unmet
    rcases Work.access_bind run₃ with ⟨e, rfl, failed, later⟩ | ⟨present, v, asked, later, run₄⟩
    · rcases TableMapping.rowExists_cases failed with ⟨_, _, reads⟩ | ⟨_, impossible, _⟩
      · exact .unconfirmed e begun updated reads (before.trans later)
      · cases impossible
    cases present with
    | false =>
      obtain ⟨rfl, same, alters⟩ := evict_cases cached (before.trans later) run₄
      exact .gone begun updated (same ▸ asked) alters
    | true =>
      exact mergeChange_ends cached begun updated (.inr ⟨rfl, asked⟩) (before.trans later) run₄
  · rename_i some
    exact mergeChange_ends cached begun updated (.inl ⟨some, rfl⟩) before run₃

/-! ### Persisting -/

/-- A draft is refused, creates an instance or changes one. -/
theorem persist_cases (sound : s.Sound) {d : Draft} {o : Except Error Handle}
    (run : persist d s = (o, s')) :
    (∃ e, o = .error e ∧ Looks s s') ∨
    ∃ c, s.caches.get? d.entityType.name = some c ∧ c.entityType.name = d.entityType.name ∧
      (d.intent = .create ∧ CreateEnds s s' c d.values o ∨
        ∃ key, d.intent = .modify key ∧ ModifyEnds s s' c key d.values o) := by
  unfold persist at run
  rcases sound.resolve_bind run with ⟨e, rfl, rfl⟩ | ⟨c, cached, mapped, named, run₁⟩
  · exact .inl ⟨e, rfl, .refl _⟩
  have own : s.caches.get? c.entityType.name = some c := by rw [named, cached]
  refine .inr ⟨c, cached, named, ?_⟩
  cases intent : d.intent with
  | create =>
    simp only [intent] at run₁
    exact .inl ⟨rfl, create_ends own run₁⟩
  | modify key =>
    simp only [intent] at run₁
    exact .inr ⟨key, rfl, modify_ends own run₁⟩

end IdentityMap.Session
