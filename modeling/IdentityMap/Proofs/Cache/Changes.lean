import IdentityMap.Proofs.Cache.Merges
/-!
# Events as the difference between two states of a cache

What happened to a key is read off its instances before and after (`changeBetween?`). Events account
for a change of a cache (`Accounts`) if they tell of exactly these differences, each key once. They
do so for every merge whose records carry different keys, whether it puts or removes first.
-/

namespace IdentityMap.IdentityCache

variable {c c' : IdentityCache} {events : List Event}

/-- The change from one state of a key to another. The records of a key that stays cached are
compared if the record was put anew; an instance that nobody touched has not changed. -/
def changeBetween? : Option Instance → Option Instance → Option Change
  | none, none => none
  | none, some after => some (.created after.record)
  | some before, none => some (.deleted (some before.record))
  | some before, some after =>
    if before = after ∨ Record.same after.record before.record then none
    else some (.updated before.record after.record)

@[simp] theorem changeBetween?_self (before : Option Instance) :
    changeBetween? before before = none := by
  cases before <;> simp [changeBetween?]

/-- The events tell exactly what has changed, once for each key. -/
structure Accounts (c c' : IdentityCache) (events : List Event) : Prop where
  once : (events.map (·.key)).Nodup
  tells : ∀ e, e ∈ events ↔ e.entityType = c.entityType ∧
    changeBetween? (c.get? e.key) (c'.get? e.key) = some e.change

/-! ### Records put and keys removed -/

/-- The pairs were put and the keys removed, and nothing else was done. -/
structure Rewrites (c c' : IdentityCache) (pairs : List (EntityKey × Record))
    (gone : List EntityKey) : Prop where
  put : ∀ p ∈ pairs, ∃ i, c'.get? p.1 = some i ∧ i.record = p.2 ∧ c.get? p.1 ≠ some i
  removed : ∀ k ∈ gone, c'.get? k = none
  others : ∀ k, k ∉ pairs.map (·.1) → k ∉ gone → c'.get? k = c.get? k

/-- The events of putting some pairs and then removing some keys. -/
def changesOf (c : IdentityCache) (pairs : List (EntityKey × Record)) (gone : List EntityKey) :
    List Event :=
  (pairs.filterMap fun p =>
      (putChange? (c.get? p.1) p.2).map fun change => ⟨c.entityType, p.1, change⟩)
    ++ gone.filterMap fun key =>
      (c.get? key).map fun i => ⟨c.entityType, key, .deleted (some i.record)⟩

theorem changeBetween?_put {before : Option Instance} {i : Instance} {r : Record}
    (same : i.record = r) (touched : before ≠ some i) :
    changeBetween? before (some i) = putChange? before r := by
  subst same
  cases before with
  | none => rfl
  | some j =>
    have differ : j ≠ i := fun equal => touched (congrArg some equal)
    simp [changeBetween?, putChange?, differ]

theorem changeBetween?_removed (before : Option Instance) :
    changeBetween? before none = before.map fun i => .deleted (some i.record) := by
  cases before <;> rfl

/-- Events that are made one for each element are about the elements' keys. -/
theorem sublist_keys {α : Type} (t : EntityType) (key : α → EntityKey) (change : α → Option Change)
    (l : List α) :
    ((l.filterMap fun a => (change a).map fun made =>
      (⟨t, key a, made⟩ : Event)).map (·.key)).Sublist (l.map key) := by
  induction l with
  | nil => exact .slnil
  | cons a rest ih =>
    cases made : change a with
    | none => simpa [made] using ih.cons (key a)
    | some change => simpa [made] using ih.cons_cons (key a)

theorem Rewrites.accounts {pairs : List (EntityKey × Record)} {gone : List EntityKey}
    (rewrites : Rewrites c c' pairs gone) (once : (pairs.map (·.1) ++ gone).Nodup) :
    Accounts c c' (changesOf c pairs gone) where
  once := by
    have puts := sublist_keys c.entityType (·.1) (fun p : EntityKey × Record =>
      putChange? (c.get? p.1) p.2) pairs
    have removals := sublist_keys c.entityType id (fun key =>
      (c.get? key).map fun i => Change.deleted (some i.record)) gone
    simp only [Option.map_map, List.map_id] at removals
    rw [changesOf, List.map_append]
    exact (puts.append removals).nodup once
  tells e := by
    obtain ⟨t, k, change⟩ := e
    constructor
    · intro listed
      rcases List.mem_append.1 listed with put | removed
      · obtain ⟨p, member, made⟩ := List.mem_filterMap.1 put
        obtain ⟨change', made, same⟩ := Option.map_eq_some_iff.1 made
        cases same
        obtain ⟨i, cached, same, touched⟩ := rewrites.put p member
        exact ⟨rfl, by rw [cached, changeBetween?_put same touched, made]⟩
      · obtain ⟨key, member, made⟩ := List.mem_filterMap.1 removed
        obtain ⟨i, cached, same⟩ := Option.map_eq_some_iff.1 made
        cases same
        exact ⟨rfl, by rw [rewrites.removed k member, cached]; rfl⟩
    · rintro ⟨rfl, differs⟩
      by_cases put : k ∈ pairs.map (·.1)
      · obtain ⟨p, member, rfl⟩ := List.mem_map.1 put
        obtain ⟨i, cached, same, touched⟩ := rewrites.put p member
        rw [cached, changeBetween?_put same touched] at differs
        exact List.mem_append_left _ (List.mem_filterMap.2 ⟨p, member, by rw [differs]; rfl⟩)
      · by_cases removed : k ∈ gone
        · rw [rewrites.removed k removed, changeBetween?_removed] at differs
          obtain ⟨i, cached, same⟩ := Option.map_eq_some_iff.1 differs
          refine List.mem_append_right _ (List.mem_filterMap.2 ⟨k, removed, ?_⟩)
          dsimp only at cached same
          rw [cached, ← same]
          rfl
        · rw [rewrites.others k put removed, changeBetween?_self] at differs
          cases differs

/-! ### The events of merges -/

variable {handles : List Handle}

/-- The records carry different keys. -/
def KeysOnce (t : EntityType) (records : List Record) : Prop :=
  (records.filterMap t.keyOf?).Nodup

theorem KeysOnce.pairs {records : List Record} (once : KeysOnce c.entityType records)
    {pairs : List (EntityKey × Record)} (keyed : c.keyed records = .ok pairs) :
    (pairs.map (·.1)).Nodup := by
  obtain ⟨rfl, carried⟩ := keyed_eq_ok keyed
  unfold KeysOnce at once
  have keys : (pairs.map (·.2)).filterMap c.entityType.keyOf? = pairs.map (·.1) := by
    rw [List.filterMap_map, ← List.filterMap_eq_map]
    exact List.filterMap_congr fun p member => carried p member
  rw [← keys]
  exact once

theorem putEvents_single (sound : c.Sound) {key : EntityKey} {r : Record}
    (carries : c.entityType.keyOf? r = some key) :
    (c.putKeyed key r).2.putEvents [(c.putKeyed key r).1] = changesOf c [(key, r)] [] := by
  have carried : Carried c.entityType [(key, r)] := by simpa [Carried] using carries
  have events := putEvents_putAllKeyed sound carried (by simp) (putKeyed_entityType c key r)
    fun _ _ => rfl
  simpa [changesOf, putAllKeyed] using events

/-- What is told where each record is put and told of before the next one is put. -/
def toldInTurn : List (EntityKey × Record) → IdentityCache → List Event
  | [], _ => []
  | (key, r) :: rest, c =>
    (c.putKeyed key r).2.putEvents [(c.putKeyed key r).1] ++ toldInTurn rest (c.putKeyed key r).2

/-- Where no key is put twice, it makes no difference whether the records are told of in turn or
all of them at the end. -/
theorem toldInTurn_eq (sound : c.Sound) {pairs : List (EntityKey × Record)}
    (carried : Carried c.entityType pairs) (once : (pairs.map (·.1)).Nodup) :
    toldInTurn pairs c = (putAllKeyed pairs c).2.putEvents (putAllKeyed pairs c).1 := by
  rw [putEvents_putAllKeyed sound carried once (putAllKeyed_entityType pairs c) fun _ _ => rfl]
  induction pairs generalizing c with
  | nil => rfl
  | cons p rest ih =>
    obtain ⟨key, r⟩ := p
    obtain ⟨absent, once⟩ := List.nodup_cons.1 once
    have carries := carried (key, r) List.mem_cons_self
    have others := ih (sound.putKeyed carries) (fun q member => by
      rw [putKeyed_entityType]
      exact carried q (List.mem_cons_of_mem _ member)) once
    have before : ∀ q ∈ rest, (c.putKeyed key r).2.get? q.1 = c.get? q.1 := fun q member =>
      get?_putKeyed_of_ne c r fun equal => absent (List.mem_map.2 ⟨q, member, equal.symm⟩)
    rw [putKeyed_entityType, List.filterMap_congr fun q member => by rw [before q member]] at others
    rw [toldInTurn, others, putEvents_single sound carries, changesOf, List.filterMap_nil,
      List.append_nil]
    cases changed : putChange? (c.get? key) r <;> simp [changed]

theorem rewrites_putKeyed (c : IdentityCache) (key : EntityKey) (r : Record) :
    Rewrites c (c.putKeyed key r).2 [(key, r)] [] where
  put p member := by
    obtain rfl := List.mem_singleton.1 member
    have once : ([(key, r)].map (·.1)).Nodup := by simp
    exact record_putAllKeyed (c := c) once (List.mem_singleton_self _)
  removed k member := by cases member
  others k absent _ := get?_putKeyed_of_ne c r fun same => absent (by simp [same])

theorem mergeRecord_accounts (sound : c.Sound) {r : Record} {h : Handle}
    (merge : c.mergeRecord r = .ok ((h, events), c')) : Accounts c c' events := by
  obtain ⟨key, carries, _, rfl, rfl⟩ := mergeRecord_eq_ok merge
  rw [putEvents_single sound carries]
  exact (rewrites_putKeyed c key r).accounts (by simp)

/-- The change of a cached record is told as any other put is. -/
theorem mergeChange_accounts (sound : c.Sound) {r : Record} {h : Handle} {key : EntityKey}
    {i : Instance} (cached : c.get? key = some i) (carries : c.entityType.keyOf? r = some key)
    (merge : c.mergeChange i.record r = .ok ((h, events), c')) : Accounts c c' events := by
  obtain ⟨key', carries', rfl, rfl, rfl⟩ := mergeChange_eq_ok merge
  rw [carries] at carries'
  cases carries'
  have named : (c.putKeyed key r).1.1.key = key := by
    rw [putKeyed_fst]
    exact sound.instanceAfter_key key r
  have events : changesOf c [(key, r)] [] = if Record.same r i.record then [] else
      [⟨c.entityType, (c.putKeyed key r).1.1.key, .updated i.record r⟩] := by
    by_cases same : Record.same r i.record = true <;>
      simp [changesOf, cached, putChange?, same, named]
  rw [← events]
  exact (rewrites_putKeyed c key r).accounts (by simp)

theorem evict_accounts (sound : c.Sound) (key : EntityKey) :
    Accounts c (c.evict key).2 (c.evict key).1.2 := by
  have rewrites : Rewrites c (c.evict key).2 [] [key] := by
    refine ⟨by simp, ?_, ?_⟩
    · intro k member
      obtain rfl := List.mem_singleton.1 member
      exact get?_remove_self c k
    · intro k _ absent
      exact get?_remove_of_ne c fun same => absent (by simp [same])
  have events : (c.evict key).1.2 = changesOf c [] [key] := by
    rw [evict_events sound]
    cases found : c.get? key <;> simp [changesOf, found]
  rw [events]
  exact rewrites.accounts (by simp)

theorem clear_accounts (sound : c.Sound) :
    Accounts c (c.clear.2.markSynced true) (c.clear.1.map c.clear.2.removalEvent) := by
  have once : c.keys.Nodup := OrderedMap.nodup_keys c.entries
  have events := removalEvents_removeAll sound once (sound.steps (steps_removeAll c.keys c))
    (.refl _)
  have rewrites : Rewrites c (c.clear.2.markSynced true) [] c.keys := by
    refine ⟨by simp, ?_, ?_⟩
    · intro k member
      show (removeAll c.keys c).2.get? k = none
      rw [get?_removeAll, if_pos member]
    · intro k _ absent
      show (removeAll c.keys c).2.get? k = c.get? k
      rw [get?_removeAll, if_neg absent]
  unfold clear at rewrites ⊢
  rw [events]
  exact rewrites.accounts (by simpa using once)

/-! #### Whole answers -/

section Answers

variable {keys : List EntityKey} {records : List Record} {pairs : List (EntityKey × Record)}

theorem not_mem_of_vanished {k : EntityKey} (gone : k ∈ vanished keys pairs) :
    k ∉ pairs.map (·.1) := by
  simpa using (List.mem_filter.1 gone).2

theorem not_mem_of_stale {k : EntityKey} (gone : k ∈ c.stale pairs) : k ∉ pairs.map (·.1) := by
  simpa using (List.mem_filter.1 gone).2

/-- Fetched keys: the records are put, and the keys without one are removed. -/
theorem rewrites_mergeFetched (sound : c.Sound) (once : KeysOnce c.entityType records)
    (merge : c.mergeFetched keys records = .ok ((handles, events), c'))
    (keyed : c.keyed records = .ok pairs) : Rewrites c c' pairs (vanished keys pairs) := by
  obtain ⟨_, keyed', -, -, rfl, -⟩ := mergeFetched_eq_ok sound merge
  cases keyed.symm.trans keyed'
  refine ⟨?_, ?_, ?_⟩
  · intro p member
    obtain ⟨i, found, same, touched⟩ := record_putAllKeyed (c := c) (once.pairs keyed) member
    refine ⟨i, ?_, same, touched⟩
    rw [get?_removeAll, if_neg fun gone => not_mem_of_vanished gone (List.mem_map_of_mem member)]
    exact found
  · intro k listed
    rw [get?_removeAll, if_pos listed]
  · intro k notPut stays
    rw [get?_removeAll, if_neg stays, get?_putAllKeyed_of_not_mem notPut]

/-- Whole tables: the cached keys without a record are removed, and the records are put. -/
theorem rewrites_mergeTable (once : KeysOnce c.entityType records)
    (merge : c.mergeTable records = .ok ((handles, events), c'))
    (keyed : c.keyed records = .ok pairs) : Rewrites c c' pairs (c.stale pairs) := by
  obtain ⟨_, keyed', -, -, rfl, -⟩ := mergeTable_eq_ok merge
  cases keyed.symm.trans keyed'
  refine ⟨?_, ?_, ?_⟩
  · intro p member
    obtain ⟨i, found, same, touched⟩ :=
      record_putAllKeyed (c := (removeAll (c.stale pairs) c).2) (once.pairs keyed) member
    refine ⟨i, found, same, ?_⟩
    rwa [get?_removeAll,
      if_neg fun gone => not_mem_of_stale gone (List.mem_map_of_mem member)] at touched
  · intro k listed
    rw [get?_markSynced, get?_putAllKeyed_of_not_mem (not_mem_of_stale listed), get?_removeAll,
      if_pos listed]
  · intro k notPut stays
    rw [get?_markSynced, get?_putAllKeyed_of_not_mem notPut, get?_removeAll, if_neg stays]

end Answers

theorem mergeFetched_accounts (sound : c.Sound) {keys : List EntityKey} {records : List Record}
    (onceKeys : keys.Nodup) (once : KeysOnce c.entityType records)
    (merge : c.mergeFetched keys records = .ok ((handles, events), c')) : Accounts c c' events := by
  obtain ⟨pairs, keyed, carried, _, same, rfl⟩ := mergeFetched_eq_ok sound merge
  have rewrites := rewrites_mergeFetched sound once merge keyed
  subst same
  have oncePairs := once.pairs keyed
  have onceGone : (vanished keys pairs).Nodup := onceKeys.filter _
  have putSound := sound.steps (steps_putAllKeyed carried)
  have shown : ∀ k ∈ pairs.map (·.1),
      (removeAll (vanished keys pairs) (putAllKeyed pairs c).2).2.get? k
        = (putAllKeyed pairs c).2.get? k := fun k put => by
    rw [get?_removeAll, if_neg fun listed => not_mem_of_vanished listed put]
  have puts := putEvents_putAllKeyed sound carried oncePairs (by simp) shown
  have removals := removalEvents_removeAll putSound onceGone
    (putSound.steps (steps_removeAll _ _)) (.refl _)
  have before : ∀ k ∈ vanished keys pairs, ((putAllKeyed pairs c).2.get? k).map
        (fun i => (⟨c.entityType, k, .deleted (some i.record)⟩ : Event))
      = (c.get? k).map fun i => ⟨c.entityType, k, .deleted (some i.record)⟩ := fun k listed => by
    rw [get?_putAllKeyed_of_not_mem (not_mem_of_vanished listed)]
  rw [putAllKeyed_entityType, List.filterMap_congr before] at removals
  rw [puts, removals]
  refine rewrites.accounts (List.nodup_append.2 ⟨oncePairs, onceGone, ?_⟩)
  intro k put k' gone same
  exact not_mem_of_vanished gone (same ▸ put)

theorem mergeTable_accounts (sound : c.Sound) {records : List Record}
    (once : KeysOnce c.entityType records)
    (merge : c.mergeTable records = .ok ((handles, events), c')) : Accounts c c' events := by
  obtain ⟨pairs, keyed, carried, _, same, rfl⟩ := mergeTable_eq_ok merge
  have rewrites := rewrites_mergeTable once merge keyed
  subst same
  have oncePairs := once.pairs keyed
  have onceGone : (c.stale pairs).Nodup := (OrderedMap.nodup_keys c.entries).filter _
  have left := sound.steps (steps_removeAll (c.stale pairs) c)
  have carriedLeft : Carried (removeAll (c.stale pairs) c).2.entityType pairs := by
    rw [removeAll_entityType]
    exact carried
  have steps := (steps_putAllKeyed carriedLeft).trans (.single (.mark true))
  have puts : ((putAllKeyed pairs (removeAll (c.stale pairs) c).2).2.markSynced true).putEvents
      (putAllKeyed pairs (removeAll (c.stale pairs) c).2).1 = _ :=
    putEvents_putAllKeyed left carriedLeft oncePairs (putAllKeyed_entityType _ _) fun _ _ => rfl
  have removals := removalEvents_removeAll sound onceGone (left.steps steps) steps.follows
  have before : ∀ p ∈ pairs, (removeAll (c.stale pairs) c).2.get? p.1 = c.get? p.1 :=
    fun p member => by
      rw [get?_removeAll, if_neg fun gone => not_mem_of_stale gone (List.mem_map_of_mem member)]
  rw [removeAll_entityType, List.filterMap_congr fun p member => by rw [before p member]] at puts
  rw [puts, removals]
  refine rewrites.accounts (List.nodup_append.2 ⟨oncePairs, onceGone, ?_⟩)
  intro k put k' gone same
  exact not_mem_of_stale gone (same ▸ put)

end IdentityMap.IdentityCache
