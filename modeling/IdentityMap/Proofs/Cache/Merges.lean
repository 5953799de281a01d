import IdentityMap.Proofs.Cache.Batch
/-!
# What a merge does to a cache

Every merge of an answer of the row store is a history of steps that never gives a key another
instance, and what it answers with is cached afterwards (`IdentityCache.Merged`).
-/

namespace IdentityMap.IdentityCache

variable {c c' : IdentityCache} {handles : List Handle} {events : List Event}

/-- A key that is cached before and after has the same instance. -/
def Stable (c c' : IdentityCache) : Prop :=
  ∀ key i i', c.get? key = some i → c'.get? key = some i' → c'.handleOf i' = c.handleOf i

theorem Stable.refl (c : IdentityCache) : Stable c c := by
  intro key i i' found found'
  rw [found] at found'
  cases found'
  rfl

theorem Kept.stable (kept : Kept c c') : Stable c c' := by
  intro key i i' found found'
  obtain ⟨j, cached, same⟩ := kept key i found
  rw [found'] at cached
  cases cached
  exact same

theorem Kept.stable_trans {c₁ : IdentityCache} (kept : Kept c c₁) (stable : Stable c₁ c') :
    Stable c c' := by
  intro key i i' found found'
  obtain ⟨i₁, found₁, same⟩ := kept key i found
  exact (stable key i₁ i' found₁ found').trans same

/-- Removals leave the instances of the other keys alone. -/
theorem stable_removeAll (keys : List EntityKey) (c : IdentityCache) :
    Stable c (removeAll keys c).2 := by
  intro key i i' found found'
  rw [get?_removeAll] at found'
  split at found'
  · cases found'
  · rw [found] at found'
    cases found'
    simp [handleOf, typeName]

/-- What a merge does to the instances of a cache; `handles` is what it answers with. -/
structure Merged (c c' : IdentityCache) (handles : List Handle) : Prop where
  steps : Steps c c'
  stable : Stable c c'
  holds : ∀ h ∈ handles, c'.Holds h

/-! ### Fetched keys -/

/-- The keys of a query that its answer did not bring. -/
def vanished (keys : List EntityKey) (pairs : List (EntityKey × Record)) : List EntityKey :=
  keys.filter (· ∉ pairs.map (·.1))

theorem mergeFetched_eq_ok (sound : c.Sound) {keys : List EntityKey} {records : List Record}
    (merge : c.mergeFetched keys records = .ok ((handles, events), c')) :
    ∃ pairs, c.keyed records = .ok pairs ∧ Carried c.entityType pairs ∧
      handles = (putAllKeyed pairs c).1.map (·.1) ∧
      c' = (removeAll (vanished keys pairs) (putAllKeyed pairs c).2).2 ∧
      events = c'.putEvents (putAllKeyed pairs c).1
        ++ (removeAll (vanished keys pairs) (putAllKeyed pairs c).2).1.map c'.removalEvent := by
  unfold mergeFetched putAll at merge
  cases keyed : c.keyed records with
  | error e => simp [keyed, Except.map] at merge
  | ok pairs =>
    have carried := (keyed_eq_ok keyed).2
    have same : List.map (fun m => m.1.key) (putAllKeyed pairs c).1 = pairs.map (·.1) :=
      keys_putAllKeyed sound carried
    simp only [keyed, Except.map, Except.ok.injEq, Prod.mk.injEq, same] at merge
    obtain ⟨⟨rfl, rfl⟩, rfl⟩ := merge
    exact ⟨pairs, rfl, carried, rfl, rfl, rfl⟩

theorem mergeFetched_merged (sound : c.Sound) {keys : List EntityKey} {records : List Record}
    (merge : c.mergeFetched keys records = .ok ((handles, events), c')) :
    Merged c c' handles := by
  obtain ⟨pairs, _, carried, rfl, rfl, _⟩ := mergeFetched_eq_ok sound merge
  refine ⟨?_, ?_, ?_⟩
  · exact (steps_putAllKeyed carried).trans (steps_removeAll _ _)
  · exact (kept_putAllKeyed pairs c).stable_trans (stable_removeAll _ _)
  · intro h member
    obtain ⟨m, listed, rfl⟩ := List.mem_map.1 member
    obtain ⟨i, found, same⟩ := holds_putAllKeyed sound carried m listed
    have keys := keys_putAllKeyed sound carried
    have returned : m.1.key ∈ pairs.map (·.1) := by
      rw [← keys]
      exact List.mem_map.2 ⟨m, listed, rfl⟩
    refine ⟨i, ?_, by simpa [handleOf, typeName] using same⟩
    rw [get?_removeAll, if_neg (by simp [vanished, returned])]
    exact found

/-- What is cached after keys were fetched: the records that came back, and of the rest what was
cached and not asked for. -/
theorem get?_mergeFetched (sound : c.Sound) {keys : List EntityKey} {records : List Record}
    (merge : c.mergeFetched keys records = .ok ((handles, events), c')) {k : EntityKey}
    {i : Instance} (found : c'.get? k = some i) :
    (i.record ∈ records ∧ c.entityType.keyOf? i.record = some k)
      ∨ (k ∉ keys ∧ c.get? k = some i) := by
  obtain ⟨pairs, keyed, carried, _, rfl, _⟩ := mergeFetched_eq_ok sound merge
  obtain ⟨same, _⟩ := keyed_eq_ok keyed
  rw [get?_removeAll] at found
  split at found
  · cases found
  · rename_i present
    rcases origin_putAllKeyed found with member | ⟨absent, before⟩
    · exact .inl ⟨same ▸ List.mem_map_of_mem member, carried _ member⟩
    · refine .inr ⟨fun asked => present ?_, before⟩
      exact List.mem_filter.2 ⟨asked, by simpa using absent⟩

/-- Fetching keys leaves the instances of all other keys cached. -/
theorem mergeFetched_kept (sound : c.Sound) {keys : List EntityKey} {records : List Record}
    (merge : c.mergeFetched keys records = .ok ((handles, events), c')) {k : EntityKey}
    {i : Instance} (spared : k ∉ keys) (found : c.get? k = some i) :
    ∃ i', c'.get? k = some i' ∧ c'.handleOf i' = c.handleOf i := by
  obtain ⟨pairs, _, _, _, rfl, _⟩ := mergeFetched_eq_ok sound merge
  obtain ⟨i', found', same⟩ := kept_putAllKeyed pairs c k i found
  refine ⟨i', ?_, by simpa [handleOf, typeName] using same⟩
  have stays : k ∉ vanished keys pairs := fun listed => spared (List.mem_filter.1 listed).1
  rw [get?_removeAll, if_neg stays]
  exact found'

/-- Every record that came back is cached. -/
theorem cached_mergeFetched (sound : c.Sound) {keys : List EntityKey} {records : List Record}
    (merge : c.mergeFetched keys records = .ok ((handles, events), c')) {r : Record}
    (member : r ∈ records) :
    ∃ key i, c.entityType.keyOf? r = some key ∧ c'.get? key = some i := by
  obtain ⟨pairs, keyed, carried, _, rfl, _⟩ := mergeFetched_eq_ok sound merge
  obtain ⟨same, _⟩ := keyed_eq_ok keyed
  rw [← same] at member
  obtain ⟨p, listed, rfl⟩ := List.mem_map.1 member
  have put : p.1 ∈ pairs.map (·.1) := List.mem_map_of_mem listed
  obtain ⟨i, found⟩ := get?_putAllKeyed_of_mem (c := c) put
  have stays : p.1 ∉ vanished keys pairs := fun gone => by
    simpa [put] using (List.mem_filter.1 gone).2
  refine ⟨p.1, i, carried p listed, ?_⟩
  rw [get?_removeAll, if_neg stays]
  exact found

theorem synced_mergeFetched (sound : c.Sound) {keys : List EntityKey} {records : List Record}
    (merge : c.mergeFetched keys records = .ok ((handles, events), c')) : c'.synced = c.synced := by
  obtain ⟨pairs, _, _, _, rfl, _⟩ := mergeFetched_eq_ok sound merge
  rw [removeAll_synced, putAllKeyed_synced]

/-! ### One cached key -/

theorem keyed_replicate {key : EntityKey} {r : Record} (carries : c.entityType.keyOf? r = some key)
    (n : Nat) : c.keyed (List.replicate n r) = .ok (List.replicate n (key, r)) := by
  induction n with
  | zero => rfl
  | succ n ih => simp [List.replicate_succ, keyed, requireKey_eq_ok.2 carries, ih, Except.map]

/-- Putting a record that is cached already makes no change. -/
theorem putAllKeyed_again {key : EntityKey} {i : Instance} (found : c.get? key = some i)
    (same : Record.same i.record i.record = true) (n : Nat) :
    ∃ c' i', putAllKeyed (List.replicate n (key, i.record)) c
        = (List.replicate n (c.handleOf i, .unchanged), c') ∧
      c'.get? key = some i' ∧ i'.record = i.record ∧ c.handleOf i' = c.handleOf i := by
  induction n generalizing c i with
  | zero => exact ⟨c, i, rfl, found, rfl, rfl⟩
  | succ n ih =>
    have next : (c.putKeyed key i.record).2.get? key = some (i.replace i.record) := by
      rw [get?_putKeyed_self, instanceAfter_of_get? found]
    obtain ⟨c', i', others, found', record, handle⟩ := ih next same
    refine ⟨c', i', ?_, found', record, ?_⟩
    · rw [List.replicate_succ, putAllKeyed_cons]
      simp only [Instance.replace] at others
      rw [others, putKeyed_fst, instanceAfter_of_get? found]
      simp [List.replicate_succ, outcomeAfter, found, same, handleOf, typeName, Instance.replace]
    · simpa [handleOf, typeName, Instance.replace] using handle

/-- A record is put once or several times under a key that is cached. -/
theorem putAllKeyed_refresh {key : EntityKey} {i : Instance} {r : Record}
    (found : c.get? key = some i) (same : Record.same r r = true) (n : Nat) :
    ∃ c' i', putAllKeyed (List.replicate (n + 1) (key, r)) c
        = ((c.handleOf i, outcomeAfter (some i) r) :: List.replicate n (c.handleOf i, .unchanged),
          c') ∧
      c'.get? key = some i' ∧ i'.record = r ∧ c.handleOf i' = c.handleOf i := by
  have next : (c.putKeyed key r).2.get? key = some (i.replace r) := by
    rw [get?_putKeyed_self, instanceAfter_of_get? found]
  obtain ⟨c', i', others, found', record, handle⟩ := putAllKeyed_again next same n
  refine ⟨c', i', ?_, found', record, ?_⟩
  · rw [List.replicate_succ, putAllKeyed_cons]
    simp only [Instance.replace] at others
    rw [others, putKeyed_fst, instanceAfter_of_get? found, found]
    simp [handleOf, typeName, Instance.replace]
  · simpa [handleOf, typeName, Instance.replace] using handle

/-- A query for a cached key brings a record, once or several times. The instance stays and holds
this record, and there is an event if the record is another one than before. -/
theorem mergeFetched_refresh (sound : c.Sound) {key : EntityKey} {i : Instance} {r : Record}
    (found : c.get? key = some i) (carries : c.entityType.keyOf? r = some key)
    (same : Record.same r r = true) (n : Nat) :
    ∃ c' i', c.mergeFetched [key] (List.replicate (n + 1) r)
        = .ok ((List.replicate (n + 1) (c.handleOf i),
          if Record.same r i.record then [] else [⟨c.entityType, key, .updated i.record r⟩]), c') ∧
      c'.get? key = some i' ∧ i'.record = r ∧ c.handleOf i' = c.handleOf i := by
  obtain ⟨c', i', put, found', record, handle⟩ := putAllKeyed_refresh found same n
  have named : (c.handleOf i).key = key := (sound.keyed key i found).1
  have type : c'.entityType = c.entityType := by
    rw [← putAllKeyed_entityType (List.replicate (n + 1) (key, r)) c, put]
  have told := putEvent?_eq (some i) (read?_of_cached (h := c.handleOf i) (named ▸ found')
    (congrArg Handle.serial handle))
  rw [record, named, type] at told
  have silent : c'.putEvents (List.replicate n (c.handleOf i, .unchanged)) = [] := by
    simp [putEvents, putEvent?]
  have events : c'.putEvents ((c.handleOf i, outcomeAfter (some i) r)
        :: List.replicate n (c.handleOf i, .unchanged))
      = if Record.same r i.record then [] else [⟨c.entityType, key, .updated i.record r⟩] := by
    rw [putEvents, List.filterMap_cons, ← putEvents, silent, told]
    by_cases unchanged : Record.same r i.record = true <;> simp [putChange?, unchanged]
  refine ⟨c', i', ?_, found', record, handle⟩
  unfold mergeFetched putAll
  rw [keyed_replicate carries]
  simp only [Except.map, put]
  simp [events, removeAll, named, List.replicate_succ]

/-! ### Whole tables -/

/-- The cached keys that a snapshot of the table does not have. -/
def stale (c : IdentityCache) (pairs : List (EntityKey × Record)) : List EntityKey :=
  c.keys.filter (· ∉ pairs.map (·.1))

theorem mergeTable_eq_ok {records : List Record}
    (merge : c.mergeTable records = .ok ((handles, events), c')) :
    ∃ pairs, c.keyed records = .ok pairs ∧ Carried c.entityType pairs ∧
      handles = (putAllKeyed pairs (removeAll (c.stale pairs) c).2).1.map (·.1) ∧
      c' = (putAllKeyed pairs (removeAll (c.stale pairs) c).2).2.markSynced true ∧
      events = c'.putEvents (putAllKeyed pairs (removeAll (c.stale pairs) c).2).1
        ++ (removeAll (c.stale pairs) c).1.map c'.removalEvent := by
  unfold mergeTable reconcile at merge
  cases keyed : c.keyed records with
  | error e => simp [keyed, Except.map] at merge
  | ok pairs =>
    have rejoined : ∀ l : List (Handle × PutOutcome), (l.map (·.1)).zip (l.map (·.2)) = l := by
      intro l
      induction l with
      | nil => rfl
      | cons m rest ih => simp [ih]
    simp only [keyed, Except.map, Except.ok.injEq, Prod.mk.injEq, rejoined] at merge
    obtain ⟨⟨rfl, rfl⟩, rfl⟩ := merge
    exact ⟨pairs, rfl, (keyed_eq_ok keyed).2, rfl, rfl, rfl⟩

theorem mergeTable_merged (sound : c.Sound) {records : List Record}
    (merge : c.mergeTable records = .ok ((handles, events), c')) : Merged c c' handles := by
  obtain ⟨pairs, _, carried, rfl, rfl, _⟩ := mergeTable_eq_ok merge
  have left := sound.steps (steps_removeAll (c.stale pairs) c)
  have carriedLeft : Carried (removeAll (c.stale pairs) c).2.entityType pairs := by
    rw [removeAll_entityType]
    exact carried
  refine ⟨?_, ?_, ?_⟩
  · exact (steps_removeAll _ _).trans
      ((steps_putAllKeyed carriedLeft).trans (.single (.mark true)))
  · -- a key that the snapshot lacks is not cached again, so each key is either removed or kept
    intro key i i' found found'
    by_cases live : key ∈ c.stale pairs
    · have absent : key ∉ pairs.map (·.1) := by simpa using (List.mem_filter.1 live).2
      rw [get?_markSynced, get?_putAllKeyed_of_not_mem absent, get?_removeAll, if_pos live]
        at found'
      cases found'
    · have still : (removeAll (c.stale pairs) c).2.get? key = some i := by
        rw [get?_removeAll, if_neg live]
        exact found
      have same := (kept_putAllKeyed pairs _).stable key i i' still found'
      simpa [handleOf, typeName, markSynced] using same
  · intro h member
    obtain ⟨m, listed, rfl⟩ := List.mem_map.1 member
    exact holds_putAllKeyed left carriedLeft m listed

theorem get?_mergeTable {records : List Record}
    (merge : c.mergeTable records = .ok ((handles, events), c')) {k : EntityKey} {i : Instance}
    (found : c'.get? k = some i) :
    i.record ∈ records ∧ c.entityType.keyOf? i.record = some k := by
  obtain ⟨pairs, keyed, carried, _, rfl, _⟩ := mergeTable_eq_ok merge
  obtain ⟨same, _⟩ := keyed_eq_ok keyed
  rw [get?_markSynced] at found
  rcases origin_putAllKeyed found with member | ⟨absent, before⟩
  · exact ⟨same ▸ List.mem_map_of_mem member, carried _ member⟩
  · rw [get?_removeAll] at before
    split at before
    · cases before
    · rename_i live
      refine absurd (List.mem_filter.2 ⟨?_, by simpa using absent⟩) live
      exact OrderedMap.mem_keys_iff.2 ⟨i, before⟩

/-- After a whole table was merged every record of it is cached. -/
theorem cached_mergeTable {records : List Record}
    (merge : c.mergeTable records = .ok ((handles, events), c')) {r : Record}
    (member : r ∈ records) :
    ∃ key i, c.entityType.keyOf? r = some key ∧ c'.get? key = some i := by
  obtain ⟨pairs, keyed, carried, _, rfl, _⟩ := mergeTable_eq_ok merge
  obtain ⟨same, _⟩ := keyed_eq_ok keyed
  rw [← same] at member
  obtain ⟨p, listed, rfl⟩ := List.mem_map.1 member
  obtain ⟨i, found⟩ := get?_putAllKeyed_of_mem (c := (removeAll (c.stale pairs) c).2)
    (List.mem_map_of_mem listed : p.1 ∈ pairs.map (·.1))
  exact ⟨p.1, i, carried p listed, found⟩

/-! ### Records that were written -/

theorem mergeRecord_eq_ok {r : Record} {h : Handle}
    (merge : c.mergeRecord r = .ok ((h, events), c')) :
    ∃ key, c.entityType.keyOf? r = some key ∧ h = (c.putKeyed key r).1.1 ∧
      c' = (c.putKeyed key r).2 ∧ events = c'.putEvents [(c.putKeyed key r).1] := by
  unfold mergeRecord put at merge
  cases required : c.requireKey r with
  | error e => simp [required, Except.map] at merge
  | ok key =>
    simp only [required, Except.map, Except.ok.injEq, Prod.mk.injEq] at merge
    obtain ⟨⟨rfl, rfl⟩, rfl⟩ := merge
    exact ⟨key, requireKey_eq_ok.1 required, rfl, rfl, rfl⟩

/-- A record that carries a key is merged. -/
theorem mergeRecord_ok {r : Record} {key : EntityKey} (carries : c.entityType.keyOf? r = some key) :
    ∃ h events c', c.mergeRecord r = .ok ((h, events), c') := by
  simp [mergeRecord, put, requireKey_eq_ok.2 carries, Except.map]

theorem mergeRecords_eq_ok {records : List Record}
    (merge : c.mergeRecords records = .ok ((handles, events), c')) :
    ∃ pairs, c.keyed records = .ok pairs ∧ Carried c.entityType pairs ∧
      handles = (putAllKeyed pairs c).1.map (·.1) ∧ c' = (putAllKeyed pairs c).2 ∧
      events = c'.putEvents (putAllKeyed pairs c).1 := by
  unfold mergeRecords putAll at merge
  cases keyed : c.keyed records with
  | error e => simp [keyed, Except.map] at merge
  | ok pairs =>
    simp only [keyed, Except.map, Except.ok.injEq, Prod.mk.injEq] at merge
    obtain ⟨⟨rfl, rfl⟩, rfl⟩ := merge
    exact ⟨pairs, rfl, (keyed_eq_ok keyed).2, rfl, rfl, rfl⟩

theorem mergeRecords_ok {records : List Record}
    (keys : ∀ r ∈ records, ∃ key, c.entityType.keyOf? r = some key) :
    ∃ handles events c', c.mergeRecords records = .ok ((handles, events), c') := by
  obtain ⟨pairs, keyed⟩ := keyed_ok_of_keys keys
  simp [mergeRecords, putAll, keyed, Except.map]

theorem mergeChange_eq_ok {base r : Record} {h : Handle}
    (merge : c.mergeChange base r = .ok ((h, events), c')) :
    ∃ key, c.entityType.keyOf? r = some key ∧ h = (c.putKeyed key r).1.1 ∧
      c' = (c.putKeyed key r).2 ∧
      events = if Record.same r base then [] else [⟨c.entityType, h.key, .updated base r⟩] := by
  unfold mergeChange put at merge
  cases required : c.requireKey r with
  | error e => simp [required, Except.map] at merge
  | ok key =>
    simp only [required, Except.map, Except.ok.injEq, Prod.mk.injEq, putKeyed_entityType] at merge
    obtain ⟨⟨rfl, rfl⟩, rfl⟩ := merge
    exact ⟨key, requireKey_eq_ok.1 required, rfl, rfl, rfl⟩

theorem mergeChange_ok (base : Record) {r : Record} {key : EntityKey}
    (carries : c.entityType.keyOf? r = some key) :
    ∃ h events c', c.mergeChange base r = .ok ((h, events), c') := by
  simp [mergeChange, put, requireKey_eq_ok.2 carries, Except.map]

/-- Putting one record, as far as the instances go. -/
theorem merged_putKeyed (sound : c.Sound) {key : EntityKey} {r : Record}
    (carries : c.entityType.keyOf? r = some key) :
    Merged c (c.putKeyed key r).2 [(c.putKeyed key r).1.1] ∧ Kept c (c.putKeyed key r).2 := by
  have single : putAllKeyed [(key, r)] c = ([(c.putKeyed key r).1], (c.putKeyed key r).2) := rfl
  have carried : Carried c.entityType [(key, r)] := by simpa [Carried] using carries
  have held := holds_putAllKeyed sound carried
  rw [single] at held
  have kept := kept_putKeyed c key r
  exact ⟨⟨.single (.put carries), kept.stable, by simpa using held⟩, kept⟩

theorem mergeRecords_merged (sound : c.Sound) {records : List Record}
    (merge : c.mergeRecords records = .ok ((handles, events), c')) :
    Merged c c' handles ∧ Kept c c' := by
  obtain ⟨pairs, _, carried, rfl, rfl, _⟩ := mergeRecords_eq_ok merge
  have kept := kept_putAllKeyed pairs c
  refine ⟨⟨steps_putAllKeyed carried, kept.stable, ?_⟩, kept⟩
  intro h member
  obtain ⟨m, listed, rfl⟩ := List.mem_map.1 member
  exact holds_putAllKeyed sound carried m listed

end IdentityMap.IdentityCache
