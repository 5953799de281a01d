import IdentityMap.Proofs.Store.SlotRuns
/-!
# Drafts that are persisted at once

A list of drafts is split up (`Session.SplitUp`). The new instances of one type whose keys are known
beforehand are inserted together, one type after the other, and then the other drafts are persisted
one by one in their order. The answer is put together by place, so each draft is answered in its own
slot, whatever the order was in which the drafts were run (`Store.slots_of_persistAll`).
-/

namespace IdentityMap

variable {σ τ : Type} [RowStore σ]

namespace Session

variable {s s' : Session σ} {handles : List Handle} {slots : List Slot}

/-! ### All drafts -/

/-- A list of drafts is split up: there is one batch for each type of which new instances are to be
made whose keys are known beforehand, and the other drafts are in their order. -/
structure SplitUp (drafts : List Draft) (batches : List (EntityType × List Slot))
    (singles : List Slot) : Prop where
  types : (batches.map (·.1)).Nodup
  batch : ∀ b ∈ batches, b.1.assignment ≠ .backend ∧ b.2.map Slot.placed =
    drafts.zipIdx.filter fun p => p.1.intent = .create ∧ p.1.entityType = b.1
  batched : ∀ d ∈ drafts, d.isBatchable = true → d.entityType ∈ batches.map (·.1)
  others : singles.map Slot.placed = drafts.zipIdx.filter fun p => !p.1.isBatchable

/-- All slots, in the order in which their drafts are persisted. -/
def slotsOf (batches : List (EntityType × List Slot)) (singles : List Slot) : List Slot :=
  batches.flatMap (·.2) ++ singles

omit [RowStore σ] in
/-- The drafts of one name whose keys are known beforehand make a batch. -/
theorem isBatch_of_grouped {drafts : List Draft} (known : ∀ d ∈ drafts, s.Knows d.entityType) :
    ∀ group ∈ grouped (·.1.entityType.name) (drafts.zipIdx.filter (·.1.isBatchable)),
      ∃ type, IsBatch s type group := by
  intro group listed
  obtain ⟨p, batchable, rfl⟩ := mem_grouped.1 listed
  have knows : ∀ q ∈ drafts.zipIdx.filter (·.1.isBatchable), s.Knows q.1.entityType :=
    fun q member => known q.1 (List.fst_mem_of_mem_zipIdx (List.mem_filter.1 member).1)
  have creates : ∀ q ∈ drafts.zipIdx.filter (·.1.isBatchable),
      q.1.intent = .create ∧ q.1.entityType.assignment ≠ .backend := fun q member => by
    simpa [Draft.isBatchable] using (List.mem_filter.1 member).2
  refine ⟨p.1.entityType, rfl, knows p batchable, (creates p batchable).2, ?_, fun q member => ?_⟩
  · exact List.ne_nil_of_mem (List.mem_filter.2 ⟨batchable, by simp⟩)
  · obtain ⟨inside, named⟩ := List.mem_filter.1 member
    refine ⟨(creates q inside).1, (knows q inside).unique (knows p batchable) ?_⟩
    exact of_decide_eq_true named

omit [RowStore σ] in
theorem splitUp_of_grouped {drafts : List Draft} {batches : List (EntityType × List Slot)}
    {singles : List Slot} (known : ∀ d ∈ drafts, s.Knows d.entityType)
    (groups : batches.map (fun b => (b.1.name, b.2.map Slot.placed))
      = grouped (·.1.entityType.name) (drafts.zipIdx.filter (·.1.isBatchable)))
    (batch : ∀ b ∈ batches, IsBatch s b.1 (b.1.name, b.2.map Slot.placed))
    (others : singles.map Slot.placed = drafts.zipIdx.filter fun p => !p.1.isBatchable) :
    SplitUp drafts batches singles := by
  refine ⟨?_, fun b listed => ⟨(batch b listed).assigned, ?_⟩, fun d member batchable => ?_, others⟩
  · have once := Operation.nodup_grouped (·.1.entityType.name)
      (drafts.zipIdx.filter (·.1.isBatchable))
    rw [← groups, List.map_map] at once
    refine List.Nodup.of_map (·.name) ?_
    rw [List.map_map]
    exact once
  · have made := batch b listed
    have group := groups ▸ List.mem_map_of_mem
      (f := fun b : EntityType × List Slot => (b.1.name, b.2.map Slot.placed)) listed
    obtain ⟨q, -, same⟩ := mem_grouped.1 group
    obtain ⟨named, placed⟩ := Prod.mk.inj same
    rw [placed, ← named, List.filter_filter]
    refine List.filter_congr fun p member => ?_
    have knows := known p.1 (List.fst_mem_of_mem_zipIdx member)
    have unique : p.1.entityType.name = b.1.name ↔ p.1.entityType = b.1 :=
      ⟨knows.unique made.known, fun same => by rw [same]⟩
    rw [Bool.eq_iff_iff]
    simp only [Draft.isBatchable, unique, Bool.and_eq_true, decide_eq_true_eq]
    constructor
    · rintro ⟨same, create, -⟩
      exact ⟨create, same⟩
    · rintro ⟨create, same⟩
      exact ⟨same, create, same ▸ made.assigned⟩
  · obtain ⟨place, here⟩ := List.mem_iff_getElem?.1 member
    have placed : (d, place) ∈ drafts.zipIdx.filter (·.1.isBatchable) :=
      List.mem_filter.2 ⟨List.mem_zipIdx_iff_getElem?.2 here, batchable⟩
    have group : (d.entityType.name, (drafts.zipIdx.filter (·.1.isBatchable)).filter
        fun p => p.1.entityType.name = d.entityType.name)
        ∈ grouped (·.1.entityType.name) (drafts.zipIdx.filter (·.1.isBatchable)) :=
      mem_grouped.2 ⟨_, placed, rfl⟩
    rw [← groups] at group
    obtain ⟨b, listed, same⟩ := List.mem_map.1 group
    have inside : (d, place) ∈ b.2.map Slot.placed := by
      rw [(Prod.mk.inj same).2]
      exact List.mem_filter.2 ⟨placed, by simp⟩
    exact List.mem_map.2 ⟨b, listed, ((batch b listed).alike _ inside).2.symm⟩

/-- All batches are inserted, and then the other drafts are persisted. -/
structure PersistsAll (s s' : Session σ) (drafts : List Draft)
    (batches : List (EntityType × List Slot)) (singles : List Slot)
    (generated : List (String × Value)) : Prop extends SplitUp drafts batches singles where
  runs : ∃ t, InsertsBatches s batches t ∧ PersistsEach t singles generated s'

theorem persistAll_persists (sound : s.Sound) {drafts : List Draft}
    (known : ∀ d ∈ drafts, s.Knows d.entityType)
    (run : persistAll drafts s = (.ok handles, s')) :
    ∃ batches singles generated, PersistsAll s s' drafts batches singles generated ∧
      handles = (List.range drafts.length).filterMap fun place =>
        List.lookup place ((slotsOf batches singles).map Slot.answered) := by
  unfold persistAll at run
  simp only [List.partition_eq_filter_filter] at run
  obtain ⟨created, t, batched, run₁⟩ := bind_ok run
  obtain ⟨others, u, persisted, done⟩ := bind_ok run₁
  obtain ⟨rfl, rfl⟩ := pure_ok done
  obtain ⟨soundNext, kept, -⟩ := createBatches_sound sound batched
  obtain ⟨batches, groups, batch, rfl, inserts⟩ :=
    createBatches_inserts sound (isBatch_of_grouped known) batched
  obtain ⟨singles, generated, rest, rfl, each⟩ := persistEach_persists soundNext
    (fun p listed => (known p.1 (List.fst_mem_of_mem_zipIdx (List.mem_filter.1 listed).1)).evolves
      kept)
    (fun p listed => by simpa using (List.mem_filter.1 listed).2) persisted
  refine ⟨batches, singles, generated,
    ⟨splitUp_of_grouped known groups batch rest, t, inserts, each⟩, ?_⟩
  simp [slotsOf, List.map_flatMap]

/-! ### Places -/

theorem Slot.lookup_answered {slots : List Slot} {place : Nat}
    (here : ∃ slot ∈ slots, slot.place = place) :
    ∃ slot ∈ slots, slot.place = place ∧
      List.lookup place (slots.map Slot.answered) = some slot.handle := by
  induction slots with
  | nil => simp at here
  | cons first rest ih =>
    rw [List.map_cons, Slot.answered, List.lookup_cons]
    by_cases same : first.place = place
    · exact ⟨first, List.mem_cons_self, same, by simp [same]⟩
    · obtain ⟨slot, listed, placed⟩ := here
      have later : slot ∈ rest := by
        rcases List.mem_cons.1 listed with rfl | later
        · exact absurd placed same
        · exact later
      obtain ⟨slot, listed, placed, found⟩ := ih ⟨slot, later, placed⟩
      exact ⟨slot, List.mem_cons_of_mem _ listed, placed, by
        rw [beq_eq_false_iff_ne.2 (Ne.symm same)]
        exact found⟩

namespace SplitUp

variable {drafts : List Draft} {batches : List (EntityType × List Slot)} {singles : List Slot}
  {slot : Slot} {d : Draft} {n : Nat}

/-- A slot of a batch is about a new instance of the batch's type. -/
theorem mem_batch (split : SplitUp drafts batches singles) {b : EntityType × List Slot}
    (batch : b ∈ batches) (listed : slot ∈ b.2) :
    drafts[slot.place]? = some slot.draft ∧ slot.draft.intent = .create ∧
      slot.draft.entityType = b.1 := by
  have placed : slot.placed ∈ b.2.map Slot.placed := List.mem_map_of_mem listed
  rw [(split.batch b batch).2] at placed
  obtain ⟨here, kind⟩ := List.mem_filter.1 placed
  exact ⟨List.mem_zipIdx_iff_getElem?.1 here, of_decide_eq_true kind⟩

theorem mem_singles (split : SplitUp drafts batches singles) (listed : slot ∈ singles) :
    drafts[slot.place]? = some slot.draft ∧ slot.draft.isBatchable = false := by
  have placed : slot.placed ∈ singles.map Slot.placed := List.mem_map_of_mem listed
  rw [split.others] at placed
  obtain ⟨here, single⟩ := List.mem_filter.1 placed
  exact ⟨List.mem_zipIdx_iff_getElem?.1 here, by simpa [Slot.placed] using single⟩

theorem length_batch (split : SplitUp drafts batches singles) {b : EntityType × List Slot}
    (batch : b ∈ batches) : b.2.length ≤ drafts.length := by
  have placed := congrArg List.length (split.batch b batch).2
  rw [List.length_map] at placed
  rw [placed, ← List.length_zipIdx (l := drafts)]
  exact List.length_filter_le _ _

/-- A draft whose key is known beforehand is in the batch of its type, and any other one is not in a
batch. -/
theorem mem_slotsOf (split : SplitUp drafts batches singles)
    (listed : slot ∈ slotsOf batches singles) :
    (∃ b ∈ batches, b.1 = slot.draft.entityType ∧ slot ∈ b.2 ∧ slot.draft.isBatchable = true) ∨
      slot ∈ singles ∧ slot.draft.isBatchable = false := by
  rcases List.mem_append.1 listed with batched | single
  · obtain ⟨b, batch, inside⟩ := List.mem_flatMap.1 batched
    obtain ⟨-, create, type⟩ := split.mem_batch batch inside
    have assigned := (split.batch b batch).1
    exact .inl ⟨b, batch, type.symm, inside, by simp [Draft.isBatchable, create, type, assigned]⟩
  · exact .inr ⟨single, (split.mem_singles single).2⟩

/-- Every draft has a slot. -/
theorem exists_slot (split : SplitUp drafts batches singles) (here : drafts[n]? = some d) :
    ∃ slot ∈ slotsOf batches singles, slot.draft = d ∧ slot.place = n := by
  have placed : (d, n) ∈ drafts.zipIdx := List.mem_zipIdx_iff_getElem?.2 here
  cases batchable : d.isBatchable with
  | true =>
    have member : d ∈ drafts := List.mem_iff_getElem?.2 ⟨n, here⟩
    obtain ⟨b, batch, type⟩ := List.mem_map.1 (split.batched d member batchable)
    have create : d.intent = .create := by
      simp only [Draft.isBatchable, Bool.and_eq_true, decide_eq_true_eq] at batchable
      exact batchable.1
    have inside : (d, n) ∈ b.2.map Slot.placed := by
      rw [(split.batch b batch).2]
      exact List.mem_filter.2 ⟨placed, by simp [create, type]⟩
    obtain ⟨slot, listed, same⟩ := List.mem_map.1 inside
    cases same
    exact ⟨slot, List.mem_append_left _ (List.mem_flatMap.2 ⟨b, batch, listed⟩), rfl, rfl⟩
  | false =>
    have inside : (d, n) ∈ singles.map Slot.placed := by
      rw [split.others]
      exact List.mem_filter.2 ⟨placed, by simp [batchable]⟩
    obtain ⟨slot, listed, same⟩ := List.mem_map.1 inside
    cases same
    exact ⟨slot, List.mem_append_right _ listed, rfl, rfl⟩

/-- Put together by place, the answer has one handle for each draft, the one of its slot. -/
theorem answers (split : SplitUp drafts batches singles)
    (answer : handles = (List.range drafts.length).filterMap fun place =>
      List.lookup place ((slotsOf batches singles).map Slot.answered)) :
    handles.length = drafts.length ∧ ∀ n d, drafts[n]? = some d →
      ∃ slot ∈ slotsOf batches singles, slot.draft = d ∧ slot.place = n ∧
        handles[n]? = some slot.handle := by
  have found : ∀ n d, drafts[n]? = some d → ∃ slot ∈ slotsOf batches singles,
      slot.draft = d ∧ slot.place = n ∧
        List.lookup n ((slotsOf batches singles).map Slot.answered) = some slot.handle := by
    intro n d here
    obtain ⟨slot, listed, -, placed⟩ := split.exists_slot here
    obtain ⟨slot, listed, rfl, found⟩ := Slot.lookup_answered ⟨slot, listed, placed⟩
    have own : drafts[slot.place]? = some slot.draft := by
      rcases split.mem_slotsOf listed with ⟨b, batch, -, inside, -⟩ | ⟨single, -⟩
      · exact (split.mem_batch batch inside).1
      · exact (split.mem_singles single).1
    exact ⟨slot, listed, Option.some.inj (own.symm.trans here), rfl, found⟩
  have looked : handles.map some = (List.range drafts.length).map fun place =>
      List.lookup place ((slotsOf batches singles).map Slot.answered) := by
    rw [answer, List.map_filterMap_some_eq_filter_map_isSome, List.filter_eq_self]
    intro o listed
    obtain ⟨n, inside, rfl⟩ := List.mem_map.1 listed
    obtain ⟨slot, -, -, -, there⟩ :=
      found n _ (List.getElem?_eq_getElem (List.mem_range.1 inside))
    simp [there]
  refine ⟨by simpa using congrArg List.length looked, fun n d here => ?_⟩
  obtain ⟨slot, listed, own, placed, there⟩ := found n d here
  refine ⟨slot, listed, own, placed, ?_⟩
  obtain ⟨inside, -⟩ := List.getElem?_eq_some_iff.1 here
  have same := congrArg (·[n]?) looked
  simpa [inside, there] using same

end SplitUp

/-! ### Keys -/

theorem InsertsBatches.together {batches : List (EntityType × List Slot)}
    (inserts : InsertsBatches s batches s') :
    ∀ b ∈ batches, ∃ t t', InsertsTogether (σ := σ) t t' b.1 b.2 := by
  induction inserts with
  | nil s => simp
  | @cons s t _ _ _ _ first _ ih => exact List.forall_mem_cons.2 ⟨⟨s, t, first⟩, ih⟩

namespace PersistsEach

variable {generated : List (String × Value)}

theorem persisted (each : PersistsEach s slots generated s') :
    ∀ slot ∈ slots, ∃ t t' : Session σ, slot.Persisted t t' := by
  induction each with
  | nil s => simp
  | @changes s t _ _ _ _ _ _ persisted _ ih => exact List.forall_mem_cons.2 ⟨⟨s, t, persisted⟩, ih⟩
  | @creates s t _ _ _ _ _ _ _ _ _ persisted _ ih =>
    exact List.forall_mem_cons.2 ⟨⟨s, t, persisted⟩, ih⟩

/-- The keys of the new instances are the generated ones. -/
theorem generated_eq (each : PersistsEach s slots generated s') :
    generated = (slots.filter fun slot => slot.draft.intent = .create).map fun slot =>
      (slot.draft.entityType.name, slot.handle.key.toValue) := by
  induction each with
  | nil s => rfl
  | changes key modify _ _ ih => rw [List.filter_cons_of_neg (by simp [modify]), ih]
  | creates raw create _ _ own _ _ ih =>
    rw [List.filter_cons_of_pos (by simpa using create), List.map_cons, ← ih, own]

end PersistsEach

/-- There are different keys for all new instances of a type: the row store has generated no key
twice, and there are not more drafts than 64-bit numbers. Callers cannot use a key twice. -/
structure KeysSuffice (type : EntityType) (generated : List (String × Value)) (count : Nat) :
    Prop where
  generated : type.assignment = .backend → (generated.filter fun g => g.1 = type.name).Nodup
  numbers : type.assignment = .sequence → count ≤ Int64.size

namespace PersistsAll

variable {drafts : List Draft} {batches : List (EntityType × List Slot)} {singles : List Slot}
  {generated : List (String × Value)} {slot other : Slot}

/-- A key that is known beforehand is the key of the slot's handle. -/
theorem known (all : PersistsAll s s' drafts batches singles generated)
    (listed : slot ∈ slotsOf batches singles) {key : EntityKey}
    (names : slot.draft.key? = some key) : slot.handle.key = key := by
  obtain ⟨t, inserts, each⟩ := all.runs
  rcases all.mem_slotsOf listed with ⟨b, batch, -, inside, -⟩ | ⟨single, -⟩
  · obtain ⟨_, _, together⟩ := inserts.together b batch
    exact together.known slot inside key names
  · obtain ⟨_, _, c, i, -, -, made⟩ := each.persisted slot single
    exact made.known key names

/-- No key occurs twice in a batch. -/
theorem eq_of_key_batch (all : PersistsAll s s' drafts batches singles generated)
    {b : EntityType × List Slot} (batch : b ∈ batches)
    (numbers : b.1.assignment = .sequence → drafts.length ≤ Int64.size)
    (inside : slot ∈ b.2) (inside' : other ∈ b.2) (same : slot.handle.key = other.handle.key) :
    slot = other := by
  obtain ⟨t, inserts, -⟩ := all.runs
  obtain ⟨_, _, together⟩ := inserts.together b batch
  have enough : b.1.assignment = .caller ∨ b.2.length ≤ Int64.size := by
    cases kind : b.1.assignment with
    | caller => exact .inl rfl
    | backend => exact absurd kind (all.batch b batch).1
    | sequence => exact .inr ((all.length_batch batch).trans (numbers kind))
  exact List.inj_on_of_nodup_map (together.once enough) inside inside' same

/-- Where no key is generated twice for a type, no two of its new instances have the same one. -/
theorem eq_of_key_singles (all : PersistsAll s s' drafts batches singles generated)
    (single : slot ∈ singles) (single' : other ∈ singles) (create : slot.draft.intent = .create)
    (create' : other.draft.intent = .create)
    (type : other.draft.entityType = slot.draft.entityType)
    (once : (generated.filter fun g => g.1 = slot.draft.entityType.name).Nodup)
    (same : slot.handle.key = other.handle.key) : slot = other := by
  obtain ⟨t, -, each⟩ := all.runs
  rw [each.generated_eq, List.filter_map, List.filter_filter] at once
  refine List.inj_on_of_nodup_map once (List.mem_filter.2 ⟨single, ?_⟩)
    (List.mem_filter.2 ⟨single', ?_⟩) ?_
  · simp [create]
  · simp [create', type]
  · rw [type, same]

/-- Two new instances of one type have different keys. -/
theorem keys_ne (all : PersistsAll s s' drafts batches singles generated)
    (listed : slot ∈ slotsOf batches singles) (listed' : other ∈ slotsOf batches singles)
    (apart : slot.place ≠ other.place) (create : slot.draft.intent = .create)
    (create' : other.draft.intent = .create)
    (type : other.draft.entityType = slot.draft.entityType)
    (suffice : KeysSuffice slot.draft.entityType generated drafts.length) :
    slot.handle.key ≠ other.handle.key := by
  intro same
  have alike : other.draft.isBatchable = slot.draft.isBatchable := by
    simp only [Draft.isBatchable, create, create', type]
  rcases all.mem_slotsOf listed with ⟨b, batch, own, inside, batchable⟩ | ⟨single, unbatchable⟩ <;>
    rcases all.mem_slotsOf listed' with ⟨b', batch', own', inside', batchable'⟩ |
      ⟨single', unbatchable'⟩
  · obtain rfl : b = b' :=
      List.inj_on_of_nodup_map all.types batch batch' (own.trans (type.symm.trans own'.symm))
    have equal := all.eq_of_key_batch batch (own ▸ suffice.numbers) inside inside' same
    exact apart (congrArg Slot.place equal)
  · rw [alike, batchable] at unbatchable'
    cases unbatchable'
  · rw [alike, unbatchable] at batchable'
    cases batchable'
  · have assigned : slot.draft.entityType.assignment = .backend := by
      simpa [Draft.isBatchable, create] using unbatchable
    have equal := all.eq_of_key_singles single single' create create' type
      (suffice.generated assigned) same
    exact apart (congrArg Slot.place equal)

end PersistsAll

end Session

namespace Store

open Session

variable [TriggerHost τ] {s : Store σ τ} {drafts : List Draft} {handles : List Handle}

/-- **Slots.** If drafts of registered types are persisted at once and this succeeds, each draft is
answered in its place. First the new instances of each type whose keys are known beforehand have
been inserted together, and then the other drafts were persisted in their order; the handle in the
place of a draft is the one that it got there, under the key of the draft if it has one, and its
instance is the cached one. No two new instances of one type share a key. -/
theorem slots_of_persistAll (reachable : s.Reachable)
    (known : ∀ d ∈ drafts, s.session.Knows d.entityType)
    (done : (s.persistAll drafts).1 = .ok handles) :
    let s' := (s.persistAll drafts).2
    handles.length = drafts.length ∧
    ∃ u batches singles generated, s'.session = { u with outbox := [] } ∧
      PersistsAll s.session u drafts batches singles generated ∧
      (∀ (n : Nat) d, drafts[n]? = some d → ∃ slot ∈ slotsOf batches singles,
        slot.draft = d ∧ slot.place = n ∧ handles[n]? = some slot.handle ∧
        s'.session.Holds slot.handle ∧ ∀ key, d.key? = some key → slot.handle.key = key) ∧
      ∀ (m n : Nat) d e h k, m ≠ n → drafts[m]? = some d → drafts[n]? = some e →
        handles[m]? = some h → handles[n]? = some k → d.intent = .create → e.intent = .create →
        e.entityType = d.entityType → KeysSuffice d.entityType generated drafts.length →
        h.key ≠ k.key := by
  intro s'
  have sound := reachable.sound
  obtain ⟨o, u, ran, outcome, after, -⟩ := ask_cases (.persistAll drafts) s
  have outcome : o = .ok handles := outcome.symm.trans done
  subst outcome
  obtain ⟨batches, singles, generated, all, answer⟩ := persistAll_persists sound known ran
  obtain ⟨length, placed⟩ := all.answers answer
  have held := (ask_sound sound (.persistAll drafts)).2.2 handles done
  refine ⟨length, u, batches, singles, generated, after, all, fun n d here => ?_, ?_⟩
  · obtain ⟨slot, listed, rfl, place, there⟩ := placed n d here
    exact ⟨slot, listed, rfl, place, there, held _ (List.mem_of_getElem? there),
      fun key names => all.known listed names⟩
  · intro m n d e h k apart first second answered answered' create create' type suffice
    obtain ⟨slot, listed, rfl, rfl, there⟩ := placed m d first
    obtain ⟨other, listed', rfl, rfl, there'⟩ := placed n e second
    obtain rfl : slot.handle = h := Option.some.inj (there.symm.trans answered)
    obtain rfl : other.handle = k := Option.some.inj (there'.symm.trans answered')
    exact all.keys_ne listed listed' apart create create' type suffice

end Store

namespace Sample

/-- A change of a gauge that is still to be created, and two dots and two tickets. -/
def mixed : List Draft := [
  ⟨gauge, .modify (.int 1), OrderedMap.ofList [("level", .float (Binary64.ofInt 7))]⟩,
  oneMore, seat 3, ⟨gauge, .create, level 1 5⟩, oneMore, seat 4]

/-- A store in which gauges, tickets and dots are registered. The largest number of a ticket is 7,
and the row store takes what comes. -/
def mixing : Store Script ScriptedHost :=
  (opened [.rows [⟨["max"], [.int 7]⟩], .count 2, .count 1, .count 1, .key (.int 1),
    .key (.int 2)]).after [.request (.register gauge), .request (.register ticket),
    .request (.register dot)]

end Sample

namespace Store

open Session Sample

/-- The tickets are inserted first, together, then the gauge, which is changed after that, and then
the dots one by one. The change and the creation of the gauge are answered with the same instance,
each in its place. -/
theorem slots_of_persistAll_mixed :
    let handles : List Handle := [⟨"Gauge", .int 1, 0⟩, ⟨"Dot", .int 1, 0⟩, ⟨"Ticket", .int 8, 0⟩,
      ⟨"Gauge", .int 1, 0⟩, ⟨"Dot", .int 2, 1⟩, ⟨"Ticket", .int 9, 1⟩]
    (mixing.persistAll mixed).1 = .ok handles ∧
      (mixing.persistAll mixed).2.session.gateway.rows.calls.map (·.kind) = [.query, .execute,
        .execute, .execute, .insertReturningKey, .insertReturningKey] ∧
      (∃ u batches singles generated,
        (mixing.persistAll mixed).2.session = { u with outbox := [] } ∧
        PersistsAll mixing.session u mixed batches singles generated) ∧
      EntityKey.int 8 ≠ .int 9 := by
  intro handles
  have reachable : mixing.Reachable := reachable_after _ _
  have known : ∀ d ∈ mixed, mixing.session.Knows d.entityType := by
    have types : ∀ d ∈ mixed, (mixing.session.caches.get? d.entityType.name).map (·.entityType)
        = some d.entityType := by decide +kernel
    exact fun d listed => Option.map_eq_some_iff.1 (types d listed)
  have done : (mixing.persistAll mixed).1 = .ok handles := by decide +kernel
  obtain ⟨-, u, batches, singles, generated, after, all, -, fresh⟩ :=
    slots_of_persistAll reachable known done
  have suffice : KeysSuffice ticket generated mixed.length :=
    ⟨nofun, fun _ => by simp [mixed, Int64.size]⟩
  have tickets := fresh 2 5 (seat 3) (seat 4) ⟨"Ticket", .int 8, 0⟩ ⟨"Ticket", .int 9, 1⟩
    (by decide) rfl rfl rfl rfl rfl rfl rfl suffice
  exact ⟨done, by decide +kernel, ⟨u, batches, singles, generated, after, all⟩, tickets⟩

end Store

end IdentityMap
