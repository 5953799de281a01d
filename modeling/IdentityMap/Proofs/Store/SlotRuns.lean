import IdentityMap.Proofs.Store.BatchSlots
/-!
# Batches and single drafts in a row

Some batches are inserted one after the other (`Session.InsertsBatches`), and some drafts are
persisted one by one (`Session.PersistsEach`). Of the single drafts that make new instances it is
also said which keys the row store has generated for them.
-/

namespace IdentityMap.Session

variable {σ : Type} [RowStore σ] {s t s' : Session σ} {c : IdentityCache}

/-! ### Batches, and the other drafts -/

/-- The type is registered. -/
def Knows (s : Session σ) (type : EntityType) : Prop :=
  ∃ c, s.caches.get? type.name = some c ∧ c.entityType = type

omit [RowStore σ] in
theorem Knows.evolves {type : EntityType} {R : IdentityCache → IdentityCache → Prop}
    (known : s.Knows type) (evolves : Evolves R s s') : s'.Knows type := by
  obtain ⟨c, cached, own⟩ := known
  obtain ⟨c', cached', steps, -⟩ := evolves _ c cached
  exact ⟨c', cached', steps.entityType.trans own⟩

omit [RowStore σ] in
/-- No two registered types have the same name. -/
theorem Knows.unique {type type' : EntityType} (known : s.Knows type) (known' : s.Knows type')
    (same : type.name = type'.name) : type = type' := by
  obtain ⟨c, cached, rfl⟩ := known
  obtain ⟨c', cached', rfl⟩ := known'
  rw [same, cached'] at cached
  cases cached
  rfl

/-- Batches of one type each are inserted one after the other. -/
inductive InsertsBatches : Session σ → List (EntityType × List Slot) → Session σ → Prop
  | nil (s : Session σ) : InsertsBatches s [] s
  | cons {s t s' : Session σ} {type : EntityType} {slots : List Slot}
    {rest : List (EntityType × List Slot)} (first : InsertsTogether s t type slots)
    (later : InsertsBatches t rest s') : InsertsBatches s ((type, slots) :: rest) s'

/-- The new instances of a group are all of one registered type, and their keys are known
beforehand. -/
structure IsBatch (s : Session σ) (type : EntityType) (group : String × List (Draft × Nat)) :
    Prop where
  named : type.name = group.1
  known : s.Knows type
  assigned : type.assignment ≠ .backend
  some : group.2 ≠ []
  alike : ∀ p ∈ group.2, p.1.intent = .create ∧ p.1.entityType = type

omit [RowStore σ] in
theorem IsBatch.unique {type type' : EntityType} {group : String × List (Draft × Nat)}
    (batch : IsBatch s type group) (batch' : IsBatch t type' group) : type = type' := by
  obtain ⟨p, listed⟩ := List.exists_mem_of_ne_nil _ batch.some
  exact (batch.alike p listed).2.symm.trans (batch'.alike p listed).2

/-- Batches that succeed have answered all their drafts. -/
theorem createBatches_inserts (sound : s.Sound) {groups : List (String × List (Draft × Nat))}
    (batch : ∀ group ∈ groups, ∃ type, IsBatch s type group) {placed : List (Nat × Handle)}
    (run : createBatches groups s = (.ok placed, s')) :
    ∃ batches : List (EntityType × List Slot),
      batches.map (fun b => (b.1.name, b.2.map Slot.placed)) = groups ∧
      (∀ b ∈ batches, IsBatch s b.1 (b.1.name, b.2.map Slot.placed)) ∧
      batches.flatMap (fun b => b.2.map Slot.answered) = placed ∧ InsertsBatches s batches s' := by
  induction groups generalizing s placed with
  | nil =>
    obtain ⟨rfl, rfl⟩ := pure_ok run
    exact ⟨[], rfl, by simp, rfl, .nil s⟩
  | cons group rest ih =>
    obtain ⟨name, drafts⟩ := group
    obtain ⟨⟨type, first⟩, others⟩ := List.forall_mem_cons.1 batch
    obtain ⟨rfl, known, assigned, some, alike⟩ := first
    obtain ⟨c, cached, own⟩ := known
    unfold createBatches at run
    obtain ⟨handles, t, created, run₁⟩ := bind_ok run
    obtain ⟨later, u, createdRest, done⟩ := bind_ok run₁
    obtain ⟨rfl, rfl⟩ := pure_ok done
    obtain ⟨length, together⟩ := createBatch_together sound cached own assigned some alike created
    obtain ⟨soundNext, kept, -⟩ := createBatch_sound sound created
    obtain ⟨batches, rfl, next, rfl, inserts⟩ := ih soundNext (fun group listed => by
      obtain ⟨type, made⟩ := others group listed
      exact ⟨type, { made with known := made.known.evolves kept }⟩) createdRest
    have placed := Slot.placed_ofAnswers length
    refine ⟨(type, Slot.ofAnswers drafts handles) :: batches, ?_, ?_, ?_, .cons together inserts⟩
    · rw [List.map_cons, placed]
    · refine List.forall_mem_cons.2 ⟨?_, fun b listed => ?_⟩
      · rw [placed]
        exact ⟨rfl, ⟨c, cached, own⟩, assigned, some, alike⟩
      · obtain ⟨type', before⟩ := others _ (List.mem_map_of_mem listed)
        exact before.unique (next b listed) ▸ before
    · rw [List.flatMap_cons, Slot.answered_ofAnswers]

/-- Drafts are persisted one by one. The keys that the row store generates are listed, with the
names of their types. -/
inductive PersistsEach : Session σ → List Slot → List (String × Value) → Session σ → Prop
  | nil (s : Session σ) : PersistsEach s [] [] s
  | changes {s t s' : Session σ} {slot : Slot} {rest : List Slot}
    {generated : List (String × Value)} (key : EntityKey)
    (modify : slot.draft.intent = .modify key) (persisted : slot.Persisted s t)
    (later : PersistsEach t rest generated s') : PersistsEach s (slot :: rest) generated s'
  /-- The row store inserts the row and answers with the key. -/
  | creates {s t s' : Session σ} {slot : Slot} {rest : List Slot}
    {generated : List (String × Value)} (raw : Value) (create : slot.draft.intent = .create)
    (assigned : slot.draft.entityType.assignment = .backend)
    (answered :
      let statement := s.gateway.dialect.insert ⟨slot.draft.entityType⟩
      RowStore.insertReturningKey statement (statement.bind slot.draft.values) s.gateway.rows
        = (.ok raw, t.gateway.rows))
    (own : slot.handle.key.toValue = raw) (persisted : slot.Persisted s t)
    (later : PersistsEach t rest generated s') :
    PersistsEach s (slot :: rest) ((slot.draft.entityType.name, raw) :: generated) s'

/-- Where the row store assigns the keys the values of a draft are inserted as they are. -/
theorem newRecord_backend {m : TableMapping} {values record : Record}
    (assigned : m.entityType.assignment = .backend)
    (run : newRecord m values s = (.ok record, t)) : record = values ∧ t = s := by
  unfold newRecord at run
  simp only [assigned] at run
  obtain ⟨_, _, run₁⟩ := Work.ofExcept_bind_ok run
  obtain ⟨_, _, done⟩ := Work.ofExcept_bind_ok run₁
  obtain ⟨rfl, rfl⟩ := pure_ok done
  exact ⟨rfl, rfl⟩

/-- The key of a new instance is the one that the row store answers with. -/
theorem create_generated {values : Record} {h : Handle} (sound : s.Sound)
    (cached : s.caches.get? c.entityType.name = some c)
    (assigned : c.entityType.assignment = .backend)
    (run : create ⟨c.entityType⟩ values s = (.ok h, s')) :
    let statement := s.gateway.dialect.insert ⟨c.entityType⟩
    RowStore.insertReturningKey statement (statement.bind values) s.gateway.rows
      = (.ok h.key.toValue, s'.gateway.rows) := by
  unfold create at run
  obtain ⟨record, t, ready, run₁⟩ := bind_ok run
  obtain ⟨rfl, rfl⟩ := newRecord_backend assigned ready
  rcases Work.access_bind run₁ with ⟨_, failed, _⟩ | ⟨generated, u, inserted, quiet, run₂⟩
  · cases failed
  rcases TableMapping.insertRow_cases inserted with ⟨plain, -⟩ | ⟨-, answer, answered, same⟩
  · rw [EntityType.keyColumn_generated] at plain
    simp [assigned] at plain
  cases answer with
  | error e => cases same
  | ok raw =>
    cases reported : TableMapping.reportedKey ⟨c.entityType⟩ raw with
    | error e => simp [Except.bind, reported, Except.map] at same
    | ok key =>
      simp only [Except.bind, reported, Except.map, Except.ok.injEq] at same
      subst same
      obtain ⟨rfl, -⟩ := reportedKey_eq_ok.1 reported
      have still : u.caches.get? c.entityType.name = some c := quiet.caches ▸ cached
      rcases Work.changeCache_cases run₂ with ⟨_, failed, _⟩ | ⟨c₁, _, _, c', done, gateway, merged,
        alters⟩
      · cases failed
      cases done
      obtain rfl := alters.unique still
      obtain ⟨key', carries, rfl, rfl, -⟩ := IdentityCache.mergeRecord_eq_ok merged
      obtain rfl : key = key' := by simpa using carries
      have own := (caches_of_put (sound.quiet quiet) alters).1
      intro statement
      rw [gateway, own]
      exact answered

/-- One draft that is not in a batch. -/
theorem PersistsEach.of_persist (sound : s.Sound) {d : Draft} (known : s.Knows d.entityType)
    (single : d.isBatchable = false) {h : Handle} (place : Nat)
    (run : persist d s = (.ok h, t)) {rest : List Slot} {generated : List (String × Value)}
    (later : PersistsEach t rest generated s') :
    ∃ generated, PersistsEach s (⟨d, place, h⟩ :: rest) generated s' := by
  obtain ⟨c, cached, own⟩ := known
  obtain ⟨i, made⟩ := persist_persistedAs sound cached own run
  have persisted : Slot.Persisted ⟨d, place, h⟩ s t := ⟨c, i, cached, own, made⟩
  cases intent : d.intent with
  | modify key => exact ⟨generated, .changes key intent persisted later⟩
  | create =>
    have assigned : d.entityType.assignment = .backend := by
      simpa [Draft.isBatchable, intent] using single
    rw [persist_create sound cached intent] at run
    rw [← own] at cached assigned
    have answered := create_generated sound cached assigned run
    rw [own] at answered assigned
    exact ⟨_, .creates _ intent assigned answered rfl persisted later⟩

/-- Single drafts that succeed are answered one by one. -/
theorem persistEach_persists (sound : s.Sound) {drafts : List (Draft × Nat)}
    (known : ∀ p ∈ drafts, s.Knows p.1.entityType)
    (single : ∀ p ∈ drafts, p.1.isBatchable = false) {placed : List (Nat × Handle)}
    (run : persistEach drafts s = (.ok placed, s')) :
    ∃ slots generated, slots.map Slot.placed = drafts ∧ slots.map Slot.answered = placed ∧
      PersistsEach s slots generated s' := by
  induction drafts generalizing s placed with
  | nil =>
    obtain ⟨rfl, rfl⟩ := pure_ok run
    exact ⟨[], [], rfl, rfl, .nil s⟩
  | cons p rest ih =>
    obtain ⟨d, place⟩ := p
    unfold persistEach at run
    obtain ⟨h, t, persisted, run₁⟩ := bind_ok run
    obtain ⟨others, u, persistedRest, done⟩ := bind_ok run₁
    obtain ⟨rfl, rfl⟩ := pure_ok done
    obtain ⟨knownOne, knownRest⟩ := List.forall_mem_cons.1 known
    obtain ⟨singleOne, singleRest⟩ := List.forall_mem_cons.1 single
    obtain ⟨soundNext, stable, -⟩ := persist_sound sound persisted
    obtain ⟨slots, generated, rfl, rfl, later⟩ := ih soundNext
      (fun p listed => (knownRest p listed).evolves stable) singleRest persistedRest
    obtain ⟨generated, each⟩ := PersistsEach.of_persist sound knownOne singleOne place persisted
      later
    exact ⟨_, generated, rfl, rfl, each⟩

end IdentityMap.Session
