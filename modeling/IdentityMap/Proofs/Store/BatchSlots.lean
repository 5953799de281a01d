import IdentityMap.Proofs.Session.Evolution
import IdentityMap.Proofs.Store.PersistedInstance
import IdentityMap.Proofs.Store.Sequence
/-!
# Slots of a batch

New instances of one type are created as a batch. Each draft has a place and is answered with a
handle (`Session.Slot`). If the batch succeeds, all records have gone out in one call, with the keys
that the drafts bring or a sequence has handed out, and each slot has its own record under its own
key (`Session.createBatch_together`).
-/

namespace IdentityMap

variable {σ : Type} [RowStore σ]

/-! ### Keys of a batch -/

/-- Records that bring their keys are as before if these keys are put into them. -/
theorem EntityType.zip_carried {t : EntityType} {values : List Record} {keys : List EntityKey}
    (carried : values.map t.keyOf? = keys.map some) :
    (∀ p ∈ values.zip keys, t.keyOf? p.1 = some p.2) ∧
      (values.zip keys).map (fun p => t.withKey p.1 p.2.toValue) = values := by
  have length : values.length = keys.length := by simpa using congrArg List.length carried
  have own : ∀ p ∈ values.zip keys, t.keyOf? p.1 = some p.2 := by
    intro p listed
    obtain ⟨n, here⟩ := List.mem_iff_getElem?.1 listed
    obtain ⟨first, second⟩ := List.getElem?_zip_eq_some.1 here
    have same := congrArg (·[n]?) carried
    simpa [first, second] using same
  refine ⟨own, ?_⟩
  calc (values.zip keys).map (fun p => t.withKey p.1 p.2.toValue)
      = (values.zip keys).map (·.1) :=
        List.map_congr_left fun p listed => EntityType.withKey_of_keyOf? (own p listed)
    _ = values := List.map_fst_zip length.le

namespace Session

variable {s t s' : Session σ} {c : IdentityCache} {values : List Record} {handles : List Handle}

/-- The keys of a batch of new instances have been found: each brings its own, or a sequence has
handed them out. At most the largest key of the table was asked for. -/
structure KeysFound (s t : Session σ) (type : EntityType) (values : List Record)
    (keys : List EntityKey) : Prop where
  looks : Looks s t
  sends : RowStore.Sends (· = .maxKey type.table type.key.column) s.gateway.rows t.gateway.rows
  length : keys.length = values.length
  own : ∀ p ∈ values.zip keys, type.keyOf? p.1 = some p.2 ∨
    type.assignment = .sequence ∧ type.keyOf? p.1 = none
  /-- A sequence has as many keys as there are numbers. -/
  once : type.assignment = .caller ∨ values.length ≤ Int64.size → keys.Nodup

/-- A batch that succeeds has found its keys, and then the records were inserted with them. -/
theorem createBatch_inserts (sound : s.Sound)
    (cached : s.caches.get? c.entityType.name = some c)
    (assigned : c.entityType.assignment ≠ .backend)
    (run : createBatch c.entityType.name values s = (.ok handles, s')) :
    ∃ t keys, KeysFound s t c.entityType values keys ∧ InsertEnds t s' c
      ((values.zip keys).map fun p => c.entityType.withKey p.1 p.2.toValue) (.ok handles) := by
  unfold createBatch at run
  rw [bind_of_ok (sound.resolve_ok cached)] at run
  cases kind : c.entityType.assignment with
  | backend => exact absurd kind assigned
  | caller =>
    simp only [kind] at run
    obtain ⟨_, required, run₁⟩ := Work.ofExcept_bind_ok run
    obtain ⟨keys, carried, once, _⟩ := EntityType.keys_of_requireKeys required
    obtain ⟨own, same⟩ := EntityType.zip_carried carried
    refine ⟨s, keys, ⟨.refl s, .refl _, by simpa using (congrArg List.length carried).symm,
      fun p listed => .inl (own p listed), fun _ => once⟩, ?_⟩
    rw [same]
    refine insertTogether_ends cached (fun r listed => ?_) run₁
    have brings : c.entityType.keyOf? r ∈ keys.map some := carried ▸ List.mem_map_of_mem listed
    obtain ⟨key, _, brought⟩ := List.mem_map.1 brings
    exact ⟨key, brought.symm⟩
  | sequence =>
    simp only [kind] at run
    obtain ⟨_, rejected, run₁⟩ := Work.ofExcept_bind_ok run
    obtain ⟨first, t, allocated, run₂⟩ := bind_ok run₁
    have looks := allocateKeys_looks allocated
    have sends := allocateKeys_sends ⟨c.entityType⟩ values.length s
    rw [allocated] at sends
    -- the first key comes after the last one that was handed out
    obtain ⟨last, rfl⟩ : ∃ last, first = last + 1 := ⟨first - 1, by simp⟩
    refine ⟨t, (keysAfter last values.length).map .int, ⟨looks, sends, ?_, ?_, ?_⟩, ?_⟩
    · simp [keysAfter_eq]
    · intro p listed
      have vacant := EntityType.rejectKeys_ok_iff.1 rejected p.1
        (List.of_mem_zip (b := p.2) listed).1
      exact .inr ⟨kind, EntityType.keyOf?_of_rejectKey vacant⟩
    · rintro (impossible | fits)
      · rw [kind] at impossible
        cases impossible
      · exact (nodup_keysAfter last fits).map fun _ _ same => EntityKey.int.inj same
    · rw [List.zip_map_right, List.map_map]
      have numbered := c.entityType.numbered_eq last values
      refine numbered ▸ insertTogether_ends (looks.caches ▸ cached) (fun r listed => ?_) run₂
      obtain ⟨_, _, n, rfl⟩ := EntityType.mem_numbered listed
      exact ⟨.int n, by simp [EntityKey.ofValue?]⟩

/-! ### Slots -/

/-- A draft of a list, its place there, and the handle that it is answered with. -/
structure Slot where
  draft : Draft
  place : Nat
  handle : Handle

namespace Slot

def placed (slot : Slot) : Draft × Nat := (slot.draft, slot.place)

def answered (slot : Slot) : Nat × Handle := (slot.place, slot.handle)

/-- The record of a new instance. -/
def record (slot : Slot) : Record :=
  slot.draft.entityType.withKey slot.draft.values slot.handle.key.toValue

/-- The draft was persisted as the instance of its handle. -/
def Persisted (slot : Slot) (s s' : Session σ) : Prop :=
  ∃ c i, s.caches.get? slot.draft.entityType.name = some c ∧
    c.entityType = slot.draft.entityType ∧ PersistedAs s s' c slot.draft slot.handle i

/-- The slots of drafts that were answered in their order. -/
def ofAnswers (drafts : List (Draft × Nat)) (handles : List Handle) : List Slot :=
  (drafts.zip handles).map fun p => ⟨p.1.1, p.1.2, p.2⟩

variable {drafts : List (Draft × Nat)} {handles : List Handle}

theorem placed_ofAnswers (length : drafts.length = handles.length) :
    (ofAnswers drafts handles).map placed = drafts := by
  unfold ofAnswers
  rw [List.map_map]
  exact List.map_fst_zip length.le

theorem handles_ofAnswers (length : drafts.length = handles.length) :
    (ofAnswers drafts handles).map (·.handle) = handles := by
  unfold ofAnswers
  rw [List.map_map]
  exact List.map_snd_zip length.ge

theorem answered_ofAnswers (drafts : List (Draft × Nat)) (handles : List Handle) :
    (ofAnswers drafts handles).map answered = (drafts.map (·.2)).zip handles := by
  unfold ofAnswers
  rw [List.map_map, List.zip_map_left]
  rfl

end Slot

/-- New instances of one type were inserted together: with all their records in one call, before
which at most the largest key of the table was asked for. -/
structure InsertsTogether (s s' : Session σ) (type : EntityType) (slots : List Slot) : Prop where
  inserted : ∃ (g : Gateway σ) (n : Nat),
    RowStore.Sends (· = .maxKey type.table type.key.column) s.gateway.rows g.rows ∧
    TableMapping.insertRows ⟨type⟩ (slots.map Slot.record) s.settings.batchSize g
      = (.ok n, s'.gateway) ∧
    s'.gateway.roundTrips = g.roundTrips + 1
  known : ∀ slot ∈ slots, ∀ key, slot.draft.key? = some key → slot.handle.key = key
  /-- No two of them have the same key, unless the sequence runs out of numbers. -/
  once : type.assignment = .caller ∨ slots.length ≤ Int64.size → (slots.map (·.handle.key)).Nodup
  persisted : (slots.map (·.handle.key)).Nodup → ∀ slot ∈ slots, slot.Persisted s s'

variable {slots : List Slot}

/-- The instances of a batch are answered under the keys of its records. -/
theorem InsertEnds.keys (sound : s.Sound) {records : List Record} {keys : List EntityKey}
    (carried : records.map c.entityType.keyOf? = keys.map some)
    (ends : InsertEnds s s' c records (.ok handles)) : handles.map (·.key) = keys := by
  cases ends with
  | inserted _ _ _ merged alters =>
    obtain ⟨pairs, keyed, owned, rfl, rfl, -⟩ := IdentityCache.mergeRecords_eq_ok merged
    obtain ⟨rfl, -⟩ := IdentityCache.keyed_eq_ok keyed
    rw [List.map_map] at carried ⊢
    have listed := IdentityCache.keys_putAllKeyed (sound.caches _ c alters.cached) owned
    refine listed.trans (List.map_inj_right (fun _ _ => Option.some.inj) |>.1 ?_)
    rw [← carried, List.map_map]
    exact List.map_congr_left fun p member => (owned p member).symm

/-- Where the keys are different, each handle of a batch has its record. -/
theorem InsertEnds.caches (sound : s.Sound)
    (own : ∀ slot ∈ slots, slot.draft.entityType = c.entityType)
    (once : (slots.map (·.handle.key)).Nodup)
    (ends : InsertEnds s s' c (slots.map Slot.record) (.ok (slots.map (·.handle)))) :
    ∀ slot ∈ slots, ∃ i, s'.Caches c.entityType slot.handle i ∧ i.record = slot.record := by
  have carried : (slots.map Slot.record).map c.entityType.keyOf?
      = (slots.map (·.handle.key)).map some := by
    rw [List.map_map, List.map_map]
    refine List.map_congr_left fun slot listed => ?_
    simp [Slot.record, own slot listed]
  have keys := ends.keys sound carried
  generalize answered : slots.map (·.handle) = handles at ends keys
  cases ends with
  | inserted _ _ _ merged alters =>
    obtain ⟨pairs, keyed, owned, rfl, rfl, -⟩ := IdentityCache.mergeRecords_eq_ok merged
    obtain ⟨records, -⟩ := IdentityCache.keyed_eq_ok keyed
    have soundCache := sound.caches _ c alters.cached
    have listed := IdentityCache.keys_putAllKeyed soundCache owned
    rw [List.map_map] at keys
    have keys : pairs.map (·.1) = slots.map (·.handle.key) := listed.symm.trans keys
    have same : pairs = slots.map fun slot => (slot.handle.key, slot.record) := by
      rw [← List.zip_map', ← keys, ← records]
      exact List.zip_of_prod rfl rfl
    intro slot member
    have put : (slot.handle.key, slot.record) ∈ pairs := same ▸ List.mem_map_of_mem member
    obtain ⟨i, there, record, -⟩ := IdentityCache.record_putAllKeyed (c := c) (keys ▸ once) put
    have handle : slot.handle ∈ (IdentityCache.putAllKeyed pairs c).1.map (·.1) :=
      answered ▸ List.mem_map_of_mem member
    obtain ⟨m, merged, here⟩ := List.mem_map.1 handle
    obtain ⟨i', there', held⟩ := IdentityCache.holds_putAllKeyed soundCache owned m merged
    rw [here] at there' held
    obtain rfl : i = i' := Option.some.inj (there.symm.trans there')
    have type := IdentityCache.putAllKeyed_entityType pairs c
    have named : slot.handle.typeName = c.entityType.name := by rw [← held, ← type]; rfl
    exact ⟨i, ⟨_, named ▸ alters.get?_self, type, there, held⟩, record⟩

/-- A new instance of a batch either brings the key of its handle, or has it from the sequence. -/
theorem KeysFound.names {slot : Slot}
    (found : KeysFound s t c.entityType (slots.map (·.draft.values)) (slots.map (·.handle.key)))
    (listed : slot ∈ slots) (create : slot.draft.intent = .create)
    (type : slot.draft.entityType = c.entityType) :
    slot.draft.key? = some slot.handle.key ∨
      c.entityType.assignment = .sequence ∧ slot.draft.key? = none := by
  have paired := found.own
  rw [List.zip_map'] at paired
  have names : slot.draft.key? = c.entityType.keyOf? slot.draft.values := by
    simp [Draft.key?, create, type]
  rw [names]
  exact paired _ (List.mem_map_of_mem listed)

theorem KeysFound.known {slot : Slot}
    (found : KeysFound s t c.entityType (slots.map (·.draft.values)) (slots.map (·.handle.key)))
    (listed : slot ∈ slots) (create : slot.draft.intent = .create)
    (type : slot.draft.entityType = c.entityType) {key : EntityKey}
    (given : slot.draft.key? = some key) : slot.handle.key = key := by
  rcases found.names listed create type with brought | ⟨-, vacant⟩
  · exact Option.some.inj (brought.symm.trans given)
  · rw [vacant] at given
    cases given

/-- Where the keys are different, each slot of a batch was persisted as the instance of its
handle. -/
theorem InsertEnds.persisted (soundNext : t.Sound)
    (alike : ∀ slot ∈ slots, slot.draft.intent = .create ∧ slot.draft.entityType = c.entityType)
    (found : KeysFound s t c.entityType (slots.map (·.draft.values)) (slots.map (·.handle.key)))
    (ends : InsertEnds t s' c (slots.map Slot.record) (.ok (slots.map (·.handle))))
    (once : (slots.map (·.handle.key)).Nodup) : ∀ slot ∈ slots, slot.Persisted s s' := by
  intro slot listed
  obtain ⟨create, type⟩ := alike slot listed
  obtain ⟨i, cached, record⟩ := ends.caches soundNext (fun s h => (alike s h).2) once slot listed
  have made : i.record = c.entityType.withKey slot.draft.values slot.handle.key.toValue := by
    rw [record, Slot.record, type]
  cases ends with
  | inserted _ fit _ _ alters =>
    have before : s.caches.get? c.entityType.name = some c :=
      found.looks.caches ▸ alters.cached
    refine ⟨c, i, type ▸ before, type.symm, cached, ?_, ?_, fun _ => made, ?_, ?_, ?_⟩
    · exact record ▸ fit _ (List.mem_map_of_mem listed)
    · simp [made]
    · intro key modify
      rw [create] at modify
      cases modify
    · exact fun key given => found.known listed create type given
    · intro unnamed
      rcases found.names listed create type with brought | ⟨sequence, -⟩
      · rw [brought] at unnamed
        cases unnamed
      · exact .inr sequence

/-- The slots of a batch whose keys were found and whose records were inserted. -/
theorem InsertEnds.together (soundNext : t.Sound)
    (alike : ∀ slot ∈ slots, slot.draft.intent = .create ∧ slot.draft.entityType = c.entityType)
    (some : slots ≠ [])
    (found : KeysFound s t c.entityType (slots.map (·.draft.values)) (slots.map (·.handle.key)))
    (ends : InsertEnds t s' c (slots.map Slot.record) (.ok (slots.map (·.handle)))) :
    InsertsTogether s s' c.entityType slots where
  inserted := by
    cases ends with
    | inserted _ _ inserted _ _ =>
      rw [found.looks.settings] at inserted
      exact ⟨t.gateway, _, found.sends, inserted,
        TableMapping.insertRows_once (by simpa using some) inserted⟩
  known slot listed _ given := found.known listed (alike slot listed).1 (alike slot listed).2 given
  once bound := found.once (by simpa using bound)
  persisted once := ends.persisted soundNext alike found once

/-- A batch that succeeds has answered each of its drafts. -/
theorem createBatch_together (sound : s.Sound) {type : EntityType}
    (cached : s.caches.get? type.name = some c) (own : c.entityType = type)
    (assigned : type.assignment ≠ .backend) {drafts : List (Draft × Nat)} (some : drafts ≠ [])
    (alike : ∀ p ∈ drafts, p.1.intent = .create ∧ p.1.entityType = type)
    (run : createBatch type.name (drafts.map (·.1.values)) s = (.ok handles, s')) :
    drafts.length = handles.length ∧ InsertsTogether s s' type (Slot.ofAnswers drafts handles) := by
  subst own
  obtain ⟨t, keys, found, ends⟩ := createBatch_inserts sound cached assigned run
  have soundNext := sound.quiet found.looks.toQuiet
  have answered : handles.map (·.key) = keys := by
    refine ends.keys soundNext ?_
    have paired : ((drafts.map (·.1.values)).zip keys).map (·.2) = keys :=
      List.map_snd_zip found.length.le
    rw [List.map_map]
    conv_rhs => rw [← paired, List.map_map]
    exact List.map_congr_left fun p _ => by simp
  have length : drafts.length = handles.length := by
    have same := congrArg List.length answered
    simp only [List.length_map] at same
    rw [same, found.length, List.length_map]
  refine ⟨length, ?_⟩
  -- everything is said of the slots from here on
  have placed := Slot.placed_ofAnswers length
  have handled := Slot.handles_ofAnswers length
  generalize Slot.ofAnswers drafts handles = slots at placed handled
  subst placed handled
  simp only [List.map_map] at answered
  subst answered
  simp only [List.map_map, List.mem_map, forall_exists_index, and_imp,
    forall_apply_eq_imp_iff₂] at found ends alike
  rw [List.zip_map'] at ends
  have records : slots.map (fun slot => c.entityType.withKey slot.draft.values
      slot.handle.key.toValue) = slots.map Slot.record := by
    refine List.map_congr_left fun slot listed => ?_
    have type : slot.draft.entityType = c.entityType := (alike slot listed).2
    rw [Slot.record, type]
  rw [List.map_map] at ends
  exact InsertEnds.together soundNext alike (by simpa using some) found (records ▸ ends)

end Session

end IdentityMap
