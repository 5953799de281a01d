import IdentityMap.Proofs.Store.Batch
import IdentityMap.Proofs.Store.KeyedLookup
import IdentityMap.Proofs.Store.Leftover
import IdentityMap.Proofs.Store.Registration
import IdentityMap.Proofs.Store.Reread
/-!
# Persisted instances

Whoever persists a draft is answered with the instance that is cached under its key, and the record
of the instance is known (`Session.PersistedAs`): for a new instance the values of the draft with
the key in the key field, for a change what it is laid over with the values of the draft and the
same key. The record passes the check of its type, also where the check was made before the row
store generated the key (`EntityType.check_withKey`). A change that carries another key than the one
it is about is refused before anything is sent.
-/

namespace IdentityMap

open Sql

variable {σ τ : Type} [RowStore σ]

/-! ### Records with keys -/

namespace EntityType

variable {t : EntityType} {r : Record} {key : EntityKey} {v w : Value}

/-- A record is as before if the key that it carries is put into it. -/
theorem withKey_of_keyOf? (carries : t.keyOf? r = some key) : t.withKey r key.toValue = r := by
  obtain ⟨v, given, made⟩ := Option.bind_eq_some_iff.1 carries
  rw [EntityKey.toValue_of_ofValue? made] at given
  exact OrderedMap.insert_of_get? given

theorem withKey_withKey (t : EntityType) (r : Record) (v w : Value) :
    t.withKey (t.withKey r v) w = t.withKey r w := OrderedMap.insert_insert ..

end EntityType

namespace Session

variable {s s' : Session σ} {c : IdentityCache} {d : Draft} {h : Handle}

/-! ### What was persisted -/

/-- What a change of a key is laid over: the cached record, or else the first one that a look-up of
the key brings. -/
def Underlies (s : Session σ) (c : IdentityCache) (key : EntityKey) (base : Record) : Prop :=
  match c.get? key with
  | some i => base = i.record
  | none => ∃ others, (s.gateway.lookUp c.entityType [key]).1 = .ok (base :: others)

/-- A draft for the type of `c` was persisted as the instance `i` of a handle. -/
structure PersistedAs (s s' : Session σ) (c : IdentityCache) (d : Draft) (h : Handle)
    (i : Instance) : Prop where
  cached : s'.Caches c.entityType h i
  fits : c.entityType.check i.record = .ok ()
  carries : c.entityType.keyOf? i.record = some h.key
  created : d.intent = .create → i.record = c.entityType.withKey d.values h.key.toValue
  changed : ∀ key, d.intent = .modify key → h.key = key ∧ ∃ base, s.Underlies c key base ∧
    i.record = c.entityType.withKey (base.merge d.values) key.toValue
  /-- A key that is known beforehand is the key of the instance. -/
  known : ∀ key, d.key? = some key → h.key = key
  /-- Otherwise the store has assigned it. -/
  assigned : d.key? = none →
    c.entityType.assignment = .backend ∨ c.entityType.assignment = .sequence

theorem PersistedAs.told {i : Instance} (persisted : PersistedAs s s' c d h i) :
    PersistedAs s { s' with outbox := [] } c d h i :=
  { persisted with cached := persisted.cached }

theorem Base.underlies {t : Session σ} {key : EntityKey} {base : Record}
    (found : Base s t c key base) : s.Underlies c key base := by
  unfold Underlies
  cases found with
  | cached i found same =>
    rw [found]
  | fetched _ others missing fetched quiet =>
    rw [missing]
    rw [TableMapping.fetchKeys_lookUp] at fetched
    exact ⟨others, by rw [fetched]⟩

/-! ### Creating -/

omit [RowStore σ] in
/-- The record of a new instance is the values of its draft, and its key. -/
theorem Prepared.complete_eq {t : EntityType} {values record : Record} {key : EntityKey}
    {generated : Option EntityKey} (prepared : Prepared t values record)
    (carries : t.keyOf? (complete t record generated) = some key) :
    complete t record generated = t.withKey values key.toValue := by
  rw [← EntityType.withKey_of_keyOf? carries]
  cases generated <;> cases prepared <;>
    simp only [complete, EntityType.withKey_withKey]

/-- Where the store assigns the keys a new instance that brings its key is refused. -/
theorem create_keyed {t : EntityType} {values : Record} {key : EntityKey}
    (assigned : t.assignment ≠ .caller) (carries : t.keyOf? values = some key) :
    create ⟨t⟩ values s = (.error (.illegal (.keyFromStore t.name t.key.name)), s) := by
  have rejected : t.rejectKey values = .error (.illegal (.keyFromStore t.name t.key.name)) := by
    obtain ⟨v, given, made⟩ := Option.bind_eq_some_iff.1 carries
    unfold EntityType.rejectKey
    rw [given]
    cases v <;> first | rfl | cases made
  have refused : newRecord ⟨t⟩ values s
      = (.error (.illegal (.keyFromStore t.name t.key.name)), s) := by
    unfold newRecord
    dsimp only
    cases kind : t.assignment with
    | caller => exact absurd kind assigned
    | backend => simp only [rejected, Work.ofExcept_error_bind]
    | sequence => simp only [rejected, Work.ofExcept_error_bind]
  exact bind_of_error refused

theorem CreateEnds.persistedAs (sound : s.Sound) {d : Draft} (create : d.intent = .create)
    (built : c.entityType = d.entityType)
    (unkeyed : c.entityType.assignment ≠ .caller → c.entityType.keyOf? d.values = none)
    (ends : CreateEnds s s' c d.values (.ok h)) : ∃ i, PersistedAs s s' c d h i := by
  have names : d.key? = c.entityType.keyOf? d.values := by simp [Draft.key?, create, built]
  cases ends with
  | @inserted t record generated events c' _ looks prepared inserted merged alters =>
    obtain ⟨key, carries, rfl, rfl, -⟩ := IdentityCache.mergeRecord_eq_ok merged
    obtain ⟨own, cached⟩ := caches_of_put sound alters
    have record : (c.instanceAfter key (complete c.entityType record generated)).record
        = complete c.entityType record generated := IdentityCache.instanceAfter_record ..
    refine ⟨_, { cached, fits := ?_, carries := ?_, created := fun _ => ?_, changed := ?_,
                 known := ?_, assigned := ?_ }⟩
    · rw [record]
      exact prepared.checked inserted
    · rw [record, own]
      exact carries
    · rw [record, own]
      exact prepared.complete_eq carries
    · intro key modify
      rw [create] at modify
      cases modify
    · intro key given
      rw [names] at given
      cases prepared with
      | caller _ assigned _ _ =>
        have plain := EntityType.keyColumn_plain (t := c.entityType) (by simp [assigned])
        obtain rfl := TableMapping.generated_of_insertRow plain inserted
        exact own.trans (Option.some.inj (carries.symm.trans given))
      | backend assigned _ =>
        rw [unkeyed (by simp [assigned])] at given
        cases given
      | sequence _ assigned _ =>
        rw [unkeyed (by simp [assigned])] at given
        cases given
    · intro none
      rw [names] at none
      cases prepared with
      | caller key _ keyed _ =>
        rw [keyed] at none
        cases none
      | backend assigned _ => exact .inl assigned
      | sequence _ assigned _ => exact .inr assigned

theorem ModifyEnds.persistedAs (sound : s.Sound) {d : Draft} {key : EntityKey}
    (modify : d.intent = .modify key) (ends : ModifyEnds s s' c key d.values (.ok h)) :
    ∃ i, PersistedAs s s' c d h i := by
  have names : d.key? = some key := by simp [Draft.key?, modify]
  cases ends with
  | @written t base met g events c' _ begun updated present merged alters =>
    obtain ⟨key', carries, rfl, rfl, -⟩ := IdentityCache.mergeChange_eq_ok merged
    obtain rfl : key' = key := by simpa [Session.changed] using carries.symm
    obtain ⟨own, cached⟩ := caches_of_put sound alters
    have record : (c.instanceAfter key' (Session.changed c.entityType base d.values key')).record
        = Session.changed c.entityType base d.values key' := IdentityCache.instanceAfter_record ..
    refine ⟨_, { cached, fits := ?_, carries := ?_, created := ?_, changed := ?_,
                 known := ?_, assigned := ?_ }⟩
    · rw [record]
      exact begun.fits
    · rw [record, own]
      exact carries
    · intro create
      rw [modify] at create
      cases create
    · intro key same
      rw [modify] at same
      cases same
      refine ⟨own, base, begun.base.underlies, record⟩
    · intro key same
      rw [names] at same
      cases same
      exact own
    · intro none
      rw [names] at none
      cases none

/-- Whoever persists a draft of a registered type is answered with what was made of it. -/
theorem persist_persistedAs (sound : s.Sound)
    (registered : s.caches.get? d.entityType.name = some c) (built : c.entityType = d.entityType)
    (run : persist d s = (.ok h, s')) : ∃ i, PersistedAs s s' c d h i := by
  rcases persist_cases sound run with ⟨_, impossible, _⟩ | ⟨c₁, cached, named, ends⟩
  · cases impossible
  obtain rfl : c₁ = c := Option.some.inj (cached.symm.trans registered)
  rcases ends with ⟨create, ends⟩ | ⟨key, modify, ends⟩
  · refine ends.persistedAs sound create built fun assigned => ?_
    by_contra keyed
    obtain ⟨key, carries⟩ := Option.ne_none_iff_exists'.1 keyed
    rw [persist_create sound registered create, create_keyed assigned carries] at run
    cases run
  · exact ends.persistedAs sound modify

/-- A change that carries another key than the one it is about is refused right away. -/
theorem persist_changedKey (sound : s.Sound)
    (registered : s.caches.get? d.entityType.name = some c) {key : EntityKey}
    (modify : d.intent = .modify key) {v : Value}
    (given : d.values.get? c.entityType.key.name = some v) (other : v ≠ key.toValue) :
    persist d s = (.error (.illegal (.changedKey c.entityType.name key.display)), s) := by
  unfold persist
  rw [bind_of_ok (sound.resolve_ok registered)]
  simp only [modify]
  rcases modify_eq c key d.values s with ⟨-, refused⟩ | ⟨names, -⟩
  · exact refused
  · exact absurd (EntityKey.toValue_of_ofValue? (names v given)) other

end Session

namespace Store

open Session

variable [TriggerHost τ] {s : Store σ τ} {c : IdentityCache} {d : Draft}

/-- Whoever persists a draft of a registered type is answered with the instance that is cached under
its key, and what the instance holds is what was made of the draft. A change that carries another
key than the one it is about, or none in place of it, is refused, and nothing has happened. -/
theorem persisted_instance (reachable : s.Reachable)
    (registered : s.session.caches.get? d.entityType.name = some c)
    (built : c.entityType = d.entityType) :
    let answer := s.persist d
    (∀ h, answer.1 = .ok h → ∃ i, s.session.PersistedAs answer.2.session c d h i) ∧
    ∀ key v, d.intent = .modify key → d.values.get? c.entityType.key.name = some v →
      v ≠ key.toValue →
      answer = (.error (.illegal (.changedKey c.entityType.name key.display)), s) := by
  intro answer
  have sound := reachable.sound
  refine ⟨fun h done => ?_, fun key v modify given other => ?_⟩
  · obtain ⟨o, u, ran, -, after, -⟩ := ask_cases (.persist d) s
    obtain ⟨o', persisted, -⟩ := Request.instancesIn_cases ran
    have outcome : o' = .ok h := (congrArg Prod.fst persisted).symm.trans done
    rw [outcome] at persisted
    obtain ⟨i, made⟩ := persist_persistedAs sound registered built persisted
    have left : answer.2.session = { u with outbox := [] } := after
    exact ⟨i, left ▸ made.told⟩
  · exact perform_stopped (persist_changedKey sound registered modify given other)
      reachable.outbox

/-- A dot is created under the key that the row store generates. A change that puts null in place of
this key is refused. -/
theorem persisted_instance_dot :
    let s := (Sample.memorising []).after [.request (.register Sample.dot)]
    let answer := s.persist Sample.oneMore
    let unkeyed : Draft := ⟨Sample.dot, .modify (.int 1), OrderedMap.ofList [("id", .null)]⟩
    answer.1 = .ok ⟨"Dot", .int 1, 0⟩ ∧
      (∃ i, answer.2.session.Caches Sample.dot ⟨"Dot", .int 1, 0⟩ i ∧
        i.record = Sample.dot.withKey Sample.oneMore.values (.int 1)) ∧
      answer.2.persist unkeyed = (.error (.illegal (.changedKey "Dot" "1")), answer.2) := by
  intro s answer unkeyed
  have registered : s.session.caches.get? "Dot" = some (.new Sample.dot) := by decide +kernel
  have done : answer.1 = .ok ⟨"Dot", .int 1, 0⟩ := by decide +kernel
  obtain ⟨made, -⟩ := persisted_instance (Sample.reachable_memorising _ _) (d := Sample.oneMore)
    registered rfl
  obtain ⟨i, persisted⟩ := made _ done
  refine ⟨done, ⟨i, persisted.cached, persisted.created rfl⟩, ?_⟩
  have reachable : answer.2.Reachable := Sample.reachable_memorising []
    [.request (.register Sample.dot), .request (.persist Sample.oneMore)]
  have type : (answer.2.session.caches.get? "Dot").map (·.entityType) = some Sample.dot := by
    decide +kernel
  obtain ⟨c, cached, own⟩ := Option.map_eq_some_iff.1 type
  have refused := (persisted_instance reachable (d := unkeyed) cached own).2 (.int 1) .null rfl
    (by rw [own]; rfl) (by decide)
  rw [own] at refused
  exact refused

end Store

end IdentityMap
