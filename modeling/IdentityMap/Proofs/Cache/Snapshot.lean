import IdentityMap.Proofs.Cache.Representation
import IdentityMap.Proofs.Cache.Response
/-!
# Snapshots of the whole table

A cache is brought in line with a snapshot: keys that have no record leave, then the records are put
in order. A key may come several times, so what a record meets is not always what was cached at
first (`IdentityCache.metBy`), and the last record of a key is the one that stays. Instances and
outcomes are listed beside the records, one for each (`IdentityCache.Reconciled`).
-/

namespace IdentityMap.IdentityCache

variable {c c' : IdentityCache} {pairs : List (EntityKey × Record)} {records : List Record}
  {key : EntityKey} {result : Reconciliation}

/-! ### What each record meets -/

/-- The record that the `n`-th record of a snapshot is compared with: the last one with its key that
came before it in the snapshot, or else the cached one. -/
def metBy (c : IdentityCache) (records : List Record) (n : Nat) (key : EntityKey) : Option Record :=
  (c.entityType.lastWith key (records.take n)).or ((c.get? key).map (·.record))

/-- What putting a record amounts to, by the record that was held before. -/
def outcomeOver (held : Option Record) (r : Record) : PutOutcome :=
  match held with
  | some previous => if Record.same r previous then .unchanged else .updated previous
  | none => .created

theorem outcomeAfter_eq (before : Option Instance) (r : Record) :
    outcomeAfter before r = outcomeOver (before.map (·.record)) r := by
  cases before <;> rfl

theorem outcomeOver_eq_created {held : Option Record} {r : Record} :
    outcomeOver held r = .created ↔ held = none := by
  cases held with
  | none => simp [outcomeOver]
  | some previous => by_cases same : Record.same r previous = true <;> simp [outcomeOver, same]

theorem metBy_eq_none {n : Nat} :
    c.metBy records n key = none ↔
      c.get? key = none ∧ ∀ r ∈ records.take n, c.entityType.keyOf? r ≠ some key := by
  rw [metBy, Option.or_eq_none_iff, Option.map_eq_none_iff, EntityType.lastWith_eq_none_iff,
    and_comm]

/-- Once the first record is put, the others meet what they meet in the whole snapshot. -/
theorem metBy_putKeyed {k : EntityKey} {r : Record} (carries : c.entityType.keyOf? r = some k)
    (rest : List Record) (n : Nat) :
    (c.putKeyed k r).2.metBy rest n key = c.metBy (r :: rest) (n + 1) key := by
  unfold metBy
  rw [putKeyed_entityType, List.take_succ_cons, EntityType.lastWith_cons, Option.or_assoc, carries]
  congr 1
  by_cases own : k = key
  · subst own
    simp
  · simp [own, get?_putKeyed_of_ne c r own]

/-- The outcome of every put is told by what its record meets. -/
theorem outcome_putAllKeyed (carried : Carried c.entityType pairs) {n : Nat}
    {p : EntityKey × Record} (here : pairs[n]? = some p) :
    ((putAllKeyed pairs c).1.map (·.2))[n]?
      = some (outcomeOver (c.metBy (pairs.map (·.2)) n p.1) p.2) := by
  induction pairs generalizing c n with
  | nil => cases here
  | cons q rest ih =>
    rw [putAllKeyed_cons, List.map_cons]
    cases n with
    | zero =>
      obtain rfl : q = p := by simpa using here
      rw [List.getElem?_cons_zero, putKeyed_fst, outcomeAfter_eq]
      rfl
    | succ n =>
      have carriedRest : Carried (c.putKeyed q.1 q.2).2.entityType rest := by
        rw [putKeyed_entityType]
        exact fun q' listed => carried q' (List.mem_cons_of_mem _ listed)
      rw [List.getElem?_cons_succ, ih carriedRest (by simpa using here),
        metBy_putKeyed (carried q List.mem_cons_self), List.map_cons]

/-- The instances that puts answer with are those that are cached under the keys afterwards. -/
theorem instances_putAllKeyed (sound : c.Sound) (carried : Carried c.entityType pairs) :
    ((putAllKeyed pairs c).1.map (·.1)).map some = (pairs.map (·.1)).map fun key =>
      ((putAllKeyed pairs c).2.get? key).map (putAllKeyed pairs c).2.handleOf := by
  rw [← keys_putAllKeyed sound carried, List.map_map, List.map_map]
  refine List.map_congr_left fun m listed => ?_
  obtain ⟨i, found, same⟩ := holds_putAllKeyed sound carried m listed
  simp [found, same]

/-! ### Snapshots -/

/-- What a snapshot has made of a cache. -/
structure Reconciled (c c' : IdentityCache) (records : List Record) (result : Reconciliation) :
    Prop where
  entityType : c'.entityType = c.entityType
  synced : c'.synced = true
  /-- The cached keys are those of the records. -/
  keys : ∀ key, key ∈ c'.keys ↔ ∃ r ∈ records, c.entityType.keyOf? r = some key
  /-- Of several records with one key the last one is held. -/
  held : ∀ key r, c.entityType.lastWith key records = some r →
    ∃ i, c'.get? key = some i ∧ i.record = r
  /-- A key that stays keeps its instance. -/
  stable : Stable c c'
  /-- Beside each record stands the instance of its key. -/
  instances : result.instances.map some = records.map fun r =>
    (c.entityType.keyOf? r).bind fun key => (c'.get? key).map c'.handleOf
  /-- Beside each record stands an outcome. -/
  outcomes : result.outcomes.length = records.length
  /-- A record makes an instance if its key is neither cached nor among the records before it. -/
  created : ∀ n r key, records[n]? = some r → c.entityType.keyOf? r = some key →
    (result.outcomes[n]? = some .created ↔
      c.get? key = none ∧ ∀ r' ∈ records.take n, c.entityType.keyOf? r' ≠ some key)
  /-- Any other record is compared with the one that its instance held just before. -/
  compared : ∀ n r key previous, records[n]? = some r → c.entityType.keyOf? r = some key →
    c.metBy records n key = some previous → result.outcomes[n]? =
      some (if Record.same r previous then .unchanged else .updated previous)
  /-- The instances that left are those that were cached under other keys. -/
  removed : ∀ h, h ∈ result.removed ↔ ∃ key i, c.get? key = some i ∧
    (∀ r ∈ records, c.entityType.keyOf? r ≠ some key) ∧ h = c.handleOf i
  /-- They are listed by key, each once. -/
  ascending : (result.removed.map (·.key)).Pairwise fun key key' => compare key key' = .lt
  /-- They are still as they were. -/
  untouched : ∀ key i, c.get? key = some i → (∀ r ∈ records, c.entityType.keyOf? r ≠ some key) →
    c'.read? (c.handleOf i) = some i

/-- The cache without the keys that a snapshot does not have. -/
def trimmed (c : IdentityCache) (pairs : List (EntityKey × Record)) : IdentityCache :=
  (removeAll (c.stale pairs) c).2

theorem reconcile_eq_ok (done : c.reconcile records = .ok (result, c')) :
    ∃ pairs, pairs.map (·.2) = records ∧ Carried c.entityType pairs ∧
      result = ⟨(putAllKeyed pairs (c.trimmed pairs)).1.map (·.1),
        (putAllKeyed pairs (c.trimmed pairs)).1.map (·.2), (removeAll (c.stale pairs) c).1⟩ ∧
      c' = (putAllKeyed pairs (c.trimmed pairs)).2.markSynced true := by
  unfold reconcile at done
  cases keyed : c.keyed records with
  | error e => simp [keyed, Except.map] at done
  | ok pairs =>
    simp only [keyed, Except.map, Except.ok.injEq, Prod.mk.injEq] at done
    obtain ⟨rfl, rfl⟩ := done
    obtain ⟨same, carried⟩ := keyed_eq_ok keyed
    exact ⟨pairs, same, carried, rfl, rfl⟩

/-! #### The keys that leave -/

theorem mem_stale (carried : Carried c.entityType pairs) :
    key ∈ c.stale pairs ↔ (∃ i, c.get? key = some i) ∧
      ∀ r ∈ pairs.map (·.2), c.entityType.keyOf? r ≠ some key := by
  rw [stale, List.mem_filter, decide_eq_true_eq, not_mem_keys_iff carried,
    EntityType.lastWith_eq_none_iff]
  exact and_congr_left' OrderedMap.mem_keys_iff

theorem ascending_keys (c : IdentityCache) :
    c.keys.Pairwise fun key key' => compare key key' = .lt :=
  List.pairwise_map.2 c.entries.ascending

theorem nodup_stale (c : IdentityCache) (pairs : List (EntityKey × Record)) :
    (c.stale pairs).Nodup := (OrderedMap.nodup_keys c.entries).filter _

theorem mem_removed (carried : Carried c.entityType pairs) {h : Handle} :
    h ∈ (removeAll (c.stale pairs) c).1 ↔ ∃ key i, c.get? key = some i ∧
      (∀ r ∈ pairs.map (·.2), c.entityType.keyOf? r ≠ some key) ∧ h = c.handleOf i := by
  rw [removed_removeAll (nodup_stale c pairs), List.mem_filterMap]
  constructor
  · rintro ⟨key, stale, shown⟩
    obtain ⟨i, found, rfl⟩ := Option.map_eq_some_iff.1 shown
    exact ⟨key, i, found, ((mem_stale carried).1 stale).2, rfl⟩
  · rintro ⟨key, i, found, others, rfl⟩
    exact ⟨key, (mem_stale carried).2 ⟨⟨i, found⟩, others⟩, by rw [found]; rfl⟩

theorem Sound.keys_removed (sound : c.Sound) (carried : Carried c.entityType pairs) :
    (removeAll (c.stale pairs) c).1.map (·.key) = c.stale pairs := by
  rw [removed_removeAll (nodup_stale c pairs), List.map_filterMap]
  calc (c.stale pairs).filterMap (fun key => ((c.get? key).map c.handleOf).map (·.key))
      = (c.stale pairs).filterMap some := by
        refine List.filterMap_congr fun key listed => ?_
        obtain ⟨⟨i, found⟩, -⟩ := (mem_stale carried).1 listed
        simp [found, handleOf, (sound.keyed key i found).1]
    _ = c.stale pairs := List.filterMap_some

/-! #### The cache in between -/

theorem trimmed_entityType (c : IdentityCache) (pairs : List (EntityKey × Record)) :
    (c.trimmed pairs).entityType = c.entityType := removeAll_entityType _ _

theorem Sound.trimmed (sound : c.Sound) (pairs : List (EntityKey × Record)) :
    (c.trimmed pairs).Sound := sound.steps (steps_removeAll _ c)

/-- A key of the snapshot is cached as before. -/
theorem get?_trimmed_of_mem (carried : Carried c.entityType pairs) {r : Record}
    (listed : r ∈ pairs.map (·.2)) (carries : c.entityType.keyOf? r = some key) :
    (c.trimmed pairs).get? key = c.get? key := by
  rw [trimmed, get?_removeAll, if_neg]
  exact fun stale => ((mem_stale carried).1 stale).2 r listed carries

/-- No other key is cached any more. -/
theorem get?_trimmed_of_missing (carried : Carried c.entityType pairs)
    (missing : ∀ r ∈ pairs.map (·.2), c.entityType.keyOf? r ≠ some key) :
    (c.trimmed pairs).get? key = none := by
  rw [trimmed, get?_removeAll]
  cases found : c.get? key with
  | none => simp
  | some i => rw [if_pos ((mem_stale carried).2 ⟨⟨i, found⟩, missing⟩)]

/-- A record of the snapshot meets what it would have met before the removals. -/
theorem outcome_trimmed (carried : Carried c.entityType pairs) {n : Nat} {r : Record}
    (here : (pairs.map (·.2))[n]? = some r) (carries : c.entityType.keyOf? r = some key) :
    ((putAllKeyed pairs (c.trimmed pairs)).1.map (·.2))[n]?
      = some (outcomeOver (c.metBy (pairs.map (·.2)) n key) r) := by
  have type := trimmed_entityType c pairs
  have before := get?_trimmed_of_mem carried (List.mem_of_getElem? here) carries
  rw [List.getElem?_map, Option.map_eq_some_iff] at here
  obtain ⟨p, here, rfl⟩ := here
  obtain rfl : p.1 = key :=
    Option.some.inj ((carried p (List.mem_of_getElem? here)).symm.trans carries)
  have carriedLeft : Carried (c.trimmed pairs).entityType pairs := by rwa [type]
  rw [outcome_putAllKeyed carriedLeft here]
  simp only [metBy, type, before]

/-! #### The whole -/

/-- A cached key is a key of the snapshot afterwards. -/
theorem mem_keys_snapshot (carried : Carried c.entityType pairs) :
    key ∈ ((putAllKeyed pairs (c.trimmed pairs)).2.markSynced true).keys ↔
      ∃ r ∈ pairs.map (·.2), c.entityType.keyOf? r = some key := by
  have listed : key ∈ ((putAllKeyed pairs (c.trimmed pairs)).2.markSynced true).keys ↔
      ∃ i, (putAllKeyed pairs (c.trimmed pairs)).2.get? key = some i := OrderedMap.mem_keys_iff
  rw [listed]
  constructor
  · rintro ⟨i, found⟩
    by_contra none
    have missing : ∀ r ∈ pairs.map (·.2), c.entityType.keyOf? r ≠ some key :=
      fun r listed carries => none ⟨r, listed, carries⟩
    have absent := (not_mem_keys_iff carried).2 (EntityType.lastWith_eq_none_iff.2 missing)
    rw [get?_putAllKeyed_of_not_mem absent, get?_trimmed_of_missing carried missing] at found
    cases found
  · intro present
    obtain ⟨r, last⟩ := EntityType.lastWith_isSome_iff.2 present
    have carriedLeft : Carried (c.trimmed pairs).entityType pairs := by
      rwa [trimmed_entityType]
    obtain ⟨i, found, -⟩ :=
      get?_putAllKeyed_last carriedLeft ((trimmed_entityType c pairs).symm ▸ last)
    exact ⟨i, found⟩

/-- A snapshot all of whose records carry keys makes of a cache what it should. -/
theorem Sound.reconciled (sound : c.Sound) (done : c.reconcile records = .ok (result, c')) :
    c.Reconciled c' records result := by
  obtain ⟨pairs, rfl, carried, rfl, rfl⟩ := reconcile_eq_ok done
  have type := trimmed_entityType c pairs
  have carriedLeft : Carried (c.trimmed pairs).entityType pairs := by rwa [type]
  refine { entityType := ?_, synced := rfl, keys := fun _ => mem_keys_snapshot carried,
           held := ?_, stable := ?_, instances := ?_, outcomes := ?_, created := ?_,
           compared := ?_, removed := fun _ => mem_removed carried, ascending := ?_,
           untouched := ?_ }
  · exact (putAllKeyed_entityType _ _).trans type
  · intro key r last
    exact get?_putAllKeyed_last carriedLeft (type.symm ▸ last)
  · -- a key that is cached in the end is one of the snapshot, so it was not removed in between
    intro key i i' found found'
    obtain ⟨r, listed, carries⟩ :=
      (mem_keys_snapshot carried).1 (OrderedMap.mem_keys_iff.2 ⟨i', found'⟩)
    have still := (get?_trimmed_of_mem carried listed carries).trans found
    have same := (kept_putAllKeyed pairs _).stable key i i' still found'
    simpa [handleOf, typeName, markSynced, type] using same
  · have listed := instances_putAllKeyed (sound.trimmed pairs) carriedLeft
    dsimp only
    rw [listed, List.map_map, List.map_map]
    refine List.map_congr_left fun p member => ?_
    simp only [Function.comp_apply, carried p member, Option.bind_some]
    rfl
  · have aligned := congrArg List.length (keys_putAllKeyed (sound.trimmed pairs) carriedLeft)
    simpa using aligned
  · intro n r key here carries
    rw [outcome_trimmed carried here carries, Option.some.injEq, outcomeOver_eq_created,
      metBy_eq_none]
  · intro n r key previous here carries met
    rw [outcome_trimmed carried here carries, met]
    rfl
  · rw [sound.keys_removed carried]
    exact (ascending_keys c).filter _
  · intro key i found missing
    have left := retired_removeAll ((mem_stale carried).2 ⟨⟨i, found⟩, missing⟩) found
    have later := (steps_putAllKeyed carriedLeft).trans (.single (.mark true))
    have shows := (sound.trimmed pairs).steps later
    exact shows.read?_of_retired (later.follows.retired.subset left) rfl

theorem reconcile_refused {r : Record} (listed : r ∈ records)
    (keyless : c.entityType.keyOf? r = none) :
    c.reconcile records = .error (.illegal (.noKeyValue c.typeName c.entityType.key.name)) := by
  have refused : c.keyed records
      = .error (.illegal (.noKeyValue c.typeName c.entityType.key.name)) := by
    induction records with
    | nil => cases listed
    | cons first rest ih =>
      unfold keyed requireKey
      cases carries : c.entityType.keyOf? first with
      | none => rfl
      | some key =>
        rcases List.mem_cons.1 listed with rfl | listed
        · rw [keyless] at carries
          cases carries
        · simp [ih listed, Except.map]
  simp [reconcile, refused, Except.map]

/-- **Snapshots.** Whatever a cache has been used for, a snapshot with a record that has no key is
refused and changes nothing. Any other one leaves exactly its keys cached, each with the last of its
records and in the instance that it had, answers with the instance and the outcome of each record,
and lists the instances that left. -/
theorem reconciled_after (t : EntityType) (uses : List Use) (records : List Record) :
    let c := after t uses
    let c' := c.apply (.reconcile records)
    ((∃ r ∈ records, t.keyOf? r = none) →
      c.reconcile records = .error (.illegal (.noKeyValue t.name t.key.name)) ∧ c' = c) ∧
    ((∀ r ∈ records, ∃ key, t.keyOf? r = some key) →
      ∃ result, c.reconcile records = .ok (result, c') ∧ c.Reconciled c' records result) := by
  intro c c'
  have steps := steps_after t uses
  have type : c.entityType = t := steps.entityType
  have sound : c.Sound := (sound_new t).steps steps
  rw [← type]
  constructor
  · rintro ⟨r, listed, keyless⟩
    have refused := reconcile_refused listed keyless
    refine ⟨refused, ?_⟩
    show c.apply (.reconcile records) = c
    simp only [apply, refused]
  · intro keys
    obtain ⟨pairs, keyed⟩ := keyed_ok_of_keys keys
    rcases done : c.reconcile records with e | ⟨result, d⟩
    · simp [reconcile, keyed, Except.map] at done
    · obtain rfl : c' = d := by
        show c.apply (.reconcile records) = d
        simp only [apply, done]
      exact ⟨result, rfl, sound.reconciled done⟩

end IdentityMap.IdentityCache
