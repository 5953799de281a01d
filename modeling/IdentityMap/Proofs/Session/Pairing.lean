import IdentityMap.Proofs.Session.Registration
/-!
# Two registries in lockstep

A session keeps the caches of its types and their tables in two registries. They are paired
(`Session.Paired`) if under every name there is either a cache and the table of its type, or
neither. Registering a type is the only work that changes which types there are. All other work is
orderly (`Session.Orderly`): it leaves the types as they are, whatever the row store does, and where
the registries are paired it never finds a cache without its table.
-/

namespace IdentityMap

/-- The change keeps the type of a cache, and what it fails with is not about registries. -/
def IdentityCache.KeepsType {α : Type}
    (change : IdentityCache → Except Error ((α × List Event) × IdentityCache)) : Prop :=
  ∀ c, Plain (change c) ∧ ∀ result c', change c = .ok (result, c') → c'.entityType = c.entityType

namespace IdentityCache

variable {α : Type}

theorem plain_requireKey (c : IdentityCache) (r : Record) : Plain (c.requireKey r) := by
  unfold requireKey
  split
  · exact .ok _
  · exact Plain.error_iff.2 rfl

theorem plain_keyed (c : IdentityCache) (records : List Record) : Plain (c.keyed records) := by
  induction records with
  | nil => exact .ok []
  | cons r rest ih =>
    have required := c.plain_requireKey r
    unfold keyed
    split <;> rename_i outcome
    · exact Plain.error_iff.2 (required _ outcome)
    · exact ih.map _

/-- A change that is made without fail. -/
theorem KeepsType.always {change : IdentityCache → (α × List Event) × IdentityCache}
    (same : ∀ c, (change c).2.entityType = c.entityType) : KeepsType fun c => .ok (change c) := by
  intro c
  refine ⟨.ok _, fun result c' changed => ?_⟩
  rw [← same c, Except.ok.inj changed]

theorem KeepsType.of_map {β : Type} {first : IdentityCache → Except Error β}
    {change : IdentityCache → β → (α × List Event) × IdentityCache}
    (plain : ∀ c, Plain (first c))
    (same : ∀ c b, (change c b).2.entityType = c.entityType) :
    KeepsType fun c => (first c).map (change c) := by
  intro c
  refine ⟨(plain c).map _, fun result c' changed => ?_⟩
  cases outcome : first c with
  | error e => simp [outcome, Except.map] at changed
  | ok b =>
    simp only [outcome, Except.map, Except.ok.injEq] at changed
    rw [← same c b, changed]

theorem map_map {α β γ : Type} (f : α → β) (g : β → γ) (o : Except Error α) :
    (o.map f).map g = o.map (g ∘ f) := by cases o <;> rfl

theorem keepsType_mergeRecord (r : Record) : KeepsType fun c => c.mergeRecord r := by
  simp only [mergeRecord, put, map_map]
  exact .of_map (fun c => c.plain_requireKey r) fun c key => putKeyed_entityType c key r

theorem keepsType_mergeRecords (records : List Record) :
    KeepsType fun c => c.mergeRecords records := by
  simp only [mergeRecords, putAll, map_map]
  exact .of_map (fun c => c.plain_keyed records) fun c pairs => putAllKeyed_entityType pairs c

theorem keepsType_mergeChange (base r : Record) : KeepsType fun c => c.mergeChange base r := by
  simp only [mergeChange, put, map_map]
  exact .of_map (fun c => c.plain_requireKey r) fun c key => putKeyed_entityType c key r

theorem keepsType_mergeFetched (keys : List EntityKey) (records : List Record) :
    KeepsType fun c => c.mergeFetched keys records := by
  simp only [mergeFetched, putAll, map_map]
  refine .of_map (fun c => c.plain_keyed records) fun c pairs => ?_
  simp

theorem keepsType_mergeTable (records : List Record) : KeepsType fun c => c.mergeTable records := by
  simp only [mergeTable, reconcile, map_map]
  refine .of_map (fun c => c.plain_keyed records) fun c pairs => ?_
  simp [markSynced]

theorem keepsType_evict (key : EntityKey) : KeepsType fun c => .ok (c.evict key) :=
  .always fun c => remove_entityType c key

end IdentityCache

namespace Work

variable {σ : Type} {s : Session σ} {typeName : String}

theorem cache_eq_error {caches : CacheSet} (noCache : caches.get? typeName = none) :
    caches.cache typeName = .error (.unregisteredType typeName) := by
  unfold CacheSet.cache
  rw [noCache]

theorem resolve_unregistered (noCache : s.caches.get? typeName = none) :
    (resolve typeName : Work σ _) s = (.error (.unregisteredType typeName), s) := by
  unfold resolve
  rw [cache_eq_error noCache]

end Work

namespace Session

variable {σ α β : Type} {s t s' : Session σ}

/-! ### Which types there are -/

/-- Under every name there are a cache and the table of its type, or neither. -/
def Paired (s : Session σ) : Prop :=
  ∀ n, s.catalog.get? n = (s.caches.get? n).map fun c => ⟨c.entityType⟩

theorem paired_new (settings : Settings) (g : Gateway σ) :
    Paired { settings, gateway := g } := fun n => by simp

theorem Paired.unmapped {n : String} (paired : s.Paired) (noCache : s.caches.get? n = none) :
    s.catalog.get? n = none := by
  rw [paired n, noCache]
  rfl

theorem Paired.resolve_ok {n : String} {c : IdentityCache} (paired : s.Paired)
    (cached : s.caches.get? n = some c) :
    (Work.resolve n : Work σ _) s = (.ok (c, ⟨c.entityType⟩), s) := by
  have mapped : s.catalog.get? n = some ⟨c.entityType⟩ := by rw [paired n, cached, Option.map_some]
  unfold Work.resolve
  rw [Work.cache_eq_ok.2 cached, Work.mapping_eq_ok.2 mapped]
  rfl

/-- The names with a cache are the names with a table. -/
theorem Paired.contains (paired : s.Paired) (n : String) :
    s.catalog.contains n = s.caches.contains n := by
  simp [OrderedMap.contains, paired n]

theorem Paired.enrolled (paired : s.Paired) (t : EntityType) : (s.enrolled t).Paired := by
  intro n
  by_cases own : t.name = n
  · subst own
    simp [Session.enrolled, OrderedMap.get?_insert_self, IdentityCache.new]
  · simp [Session.enrolled, OrderedMap.get?_insert_of_ne _ _ own, paired n]

/-- The tables are the same, and the caches are of the same types. -/
structure SameTypes (s s' : Session σ) : Prop where
  catalog : s'.catalog = s.catalog
  types : ∀ n, (s'.caches.get? n).map (·.entityType) = (s.caches.get? n).map (·.entityType)

namespace SameTypes

theorem refl (s : Session σ) : SameTypes s s := ⟨rfl, fun _ => rfl⟩

theorem trans (first : SameTypes s t) (later : SameTypes t s') : SameTypes s s' where
  catalog := later.catalog.trans first.catalog
  types n := (later.types n).trans (first.types n)

theorem of_caches (catalog : s'.catalog = s.catalog) (caches : s'.caches = s.caches) :
    SameTypes s s' := ⟨catalog, fun n => by rw [caches]⟩

theorem paired (same : SameTypes s s') (paired : s.Paired) : s'.Paired := by
  intro n
  have types := congrArg (Option.map fun t => (⟨t⟩ : TableMapping)) (same.types n)
  simp only [Option.map_map] at types
  rw [same.catalog, paired n]
  exact types.symm

end SameTypes

/-! ### Orderly work -/

/-- However the work runs on paired registries, it leaves the types as they are and finds the table
of every type that it has a cache of. -/
def Orderly (w : Work σ α) : Prop :=
  ∀ s, s.Paired → SameTypes s (w s).2 ∧ ∀ n, (w s).1 ≠ .error (.unmappedType n)

namespace Orderly

theorem pure (a : α) : Orderly (Pure.pure a : Work σ α) :=
  fun s _ => ⟨.refl s, fun _ impossible => nomatch impossible⟩

theorem throw {e : Error} (plain : e.aboutRegistries = false) :
    Orderly (MonadExcept.throw e : Work σ α) :=
  fun s _ => ⟨.refl s, (Plain.error_iff.2 plain).not_unmapped⟩

theorem current : Orderly (MonadState.get : Work σ (Session σ)) :=
  fun s _ => ⟨.refl s, fun _ impossible => nomatch impossible⟩

theorem countLookups (hits misses : Nat) : Orderly (Work.countLookups hits misses : Work σ Unit) :=
  fun _ _ => ⟨.of_caches rfl rfl, fun _ impossible => nomatch impossible⟩

theorem advance (typeName : String) (last : Int64) :
    Orderly (Session.advance typeName last : Work σ Unit) :=
  fun _ _ => ⟨.of_caches rfl rfl, fun _ impossible => nomatch impossible⟩

theorem ofExcept {outcome : Except Error α} (plain : Plain outcome) :
    Orderly (Work.ofExcept outcome : Work σ α) := fun s _ => ⟨.refl s, plain.not_unmapped⟩

theorem bind {w : Work σ α} {f : α → Work σ β} (first : Orderly w) (next : ∀ a, Orderly (f a)) :
    Orderly (w >>= f) := by
  intro s paired
  have started := first s paired
  rcases ran : w s with ⟨e | a, t⟩ <;> rw [ran] at started
  · rw [bind_of_error ran]
    exact ⟨started.1, fun n failed => started.2 n (congrArg Except.error (Except.error.inj failed))⟩
  · rw [bind_of_ok ran]
    have later := next a t (started.1.paired paired)
    exact ⟨started.1.trans later.1, later.2⟩

theorem access {a : Access σ α} (plain : Access.Plain a) : Orderly (Work.access a) :=
  fun s _ => ⟨.of_caches rfl rfl, (plain s.gateway).not_unmapped⟩

/-- This is where a table could be missing. -/
theorem resolve (typeName : String) : Orderly (Work.resolve typeName : Work σ _) := by
  intro s paired
  cases cached : s.caches.get? typeName with
  | none =>
    rw [Work.resolve_unregistered cached]
    exact ⟨.refl s, fun _ impossible => nomatch impossible⟩
  | some c =>
    rw [paired.resolve_ok cached]
    exact ⟨.refl s, fun _ impossible => nomatch impossible⟩

theorem changeCache (typeName : String)
    {change : IdentityCache → Except Error ((α × List Event) × IdentityCache)}
    (keeps : IdentityCache.KeepsType change) :
    Orderly (Work.changeCache typeName change : Work σ α) := by
  intro s _
  rcases ran : (Work.changeCache typeName change : Work σ α) s with ⟨o, t⟩
  rcases Work.changeCache_cases ran with ⟨e, rfl, rfl, fails⟩ | ⟨c, a, events, c', rfl, _, changed,
    alters⟩
  · refine ⟨.refl s, ?_⟩
    rintro n ⟨⟩
    cases cached : s.caches.get? typeName with
    | none =>
      unfold Work.changeCache at ran
      rw [Work.cache_eq_error cached] at ran
      cases ran
    | some c => exact (keeps c).1.not_unmapped n (fails c cached)
  · refine ⟨⟨alters.catalog, fun n => ?_⟩, fun _ impossible => nomatch impossible⟩
    by_cases own : typeName = n
    · subst own
      rw [alters.get?_self, alters.cached, Option.map_some, Option.map_some,
        (keeps c).2 _ c' changed]
    · rw [alters.get?_of_ne own]

variable [RowStore σ] (reports : RowStore.ReportsBackend σ)

include reports

/-! #### Looking up and deleting -/

theorem fetchKeys (m : TableMapping) (keys : List EntityKey) :
    Orderly (Session.fetchKeys m keys : Work σ _) :=
  (access (TableMapping.plain_fetchKeys reports keys)).bind fun _ =>
    changeCache _ (IdentityCache.keepsType_mergeFetched _ _)

theorem reload (m : TableMapping) : Orderly (Session.reload m : Work σ _) :=
  (access (TableMapping.plain_fetchAll reports)).bind fun _ =>
    changeCache _ (IdentityCache.keepsType_mergeTable _)

theorem getSome (typeName : String) (keys : List EntityKey) (policy : CachePolicy) :
    Orderly (Session.getSome typeName keys policy : Work σ _) := by
  refine (resolve typeName).bind fun found => ?_
  have fetched (m : TableMapping) (keys : List EntityKey) (answer : List Handle → List Handle) :
      Orderly (if keys = [] then do
          let fetched ← Pure.pure []
          Pure.pure (answer fetched)
        else do
          let fetched ← Session.fetchKeys m keys
          Pure.pure (answer fetched) : Work σ _) := by
    split
    · exact (Orderly.pure []).bind fun _ => .pure _
    · exact (fetchKeys reports m keys).bind fun _ => .pure _
  dsimp only
  split
  · exact (countLookups _ _).bind fun _ => fetched _ _ _
  · exact fetched _ _ _

theorem get (typeName : String) (key : EntityKey) (policy : CachePolicy) :
    Orderly (Session.get typeName key policy : Work σ _) :=
  (getSome reports typeName [key] policy).bind fun _ => .pure _

theorem getAll (typeName : String) (policy : CachePolicy) :
    Orderly (Session.getAll typeName policy : Work σ _) := by
  refine (resolve typeName).bind fun found => ?_
  dsimp only
  split
  · exact (countLookups _ _).bind fun _ => .pure _
  · split
    · exact (countLookups _ _).bind fun _ => reload reports _
    · exact reload reports _

theorem getSize (typeName : String) (policy : CachePolicy) :
    Orderly (Session.getSize typeName policy : Work σ _) := by
  refine (resolve typeName).bind fun found => ?_
  dsimp only
  split
  · exact (countLookups _ _).bind fun _ => .pure _
  · split
    · exact (reload reports _).bind fun _ => .pure _
    · exact (countLookups _ _).bind fun _ => access (TableMapping.plain_countRows reports)

theorem refreshType (typeName : String) :
    Orderly (Session.refreshType typeName : Work σ _) := by
  refine (resolve typeName).bind fun found => ?_
  dsimp only
  split
  · exact (reload reports _).bind fun _ => .pure ()
  · split
    · exact (fetchKeys reports _ _).bind fun _ => .pure ()
    · exact .pure ()

theorem deleteKeys (observed : Bool) (typeName : String) (keys : List EntityKey) :
    Orderly (Session.deleteKeys observed typeName keys : Work σ _) := by
  refine (resolve typeName).bind fun found => ?_
  have deletes (m : TableMapping) (keys : List EntityKey) (events : List Event) :
      Orderly (do
        let deleted ← Work.access (m.deleteRows keys)
        Work.changeCache typeName fun c => .ok (((), events), (IdentityCache.removeAll keys c).2)
        return deleted : Work σ Nat) :=
    (access (TableMapping.plain_deleteRows reports keys)).bind fun _ =>
      (changeCache _ (.always fun c => IdentityCache.removeAll_entityType keys c)).bind fun _ =>
        .pure _
  dsimp only
  split
  · exact .pure 0
  · split
    · exact (access (TableMapping.plain_fetchKeys reports _)).bind fun _ => deletes _ _ _
    · exact (Orderly.pure []).bind fun _ => deletes _ _ _

theorem deleteAll (typeName : String) : Orderly (Session.deleteAll typeName : Work σ _) :=
  (resolve typeName).bind fun _ => (access (TableMapping.plain_deleteAllRows reports)).bind fun _ =>
    (changeCache _ (.always fun c => IdentityCache.removeAll_entityType c.keys c)).bind fun _ =>
      .pure _

/-! #### Persisting -/

theorem allocateKeys (m : TableMapping) (count : Nat) :
    Orderly (Session.allocateKeys m count : Work σ Int64) := by
  have last : Orderly (Session.lastKey m : Work σ Int64) := by
    refine current.bind fun now => ?_
    split
    · exact .pure _
    · exact (access (TableMapping.plain_largestKey reports)).bind fun _ => .pure _
  exact last.bind fun _ => (advance _ _).bind fun _ => .pure _

theorem newRecord (m : TableMapping) (values : Record) :
    Orderly (Session.newRecord m values : Work σ _) := by
  unfold Session.newRecord
  dsimp only
  split
  · exact (ofExcept (EntityType.plain_requireKey _)).bind fun _ =>
      (ofExcept (EntityType.plain_check _)).bind fun _ => .pure _
  · exact (ofExcept (EntityType.plain_rejectKey _)).bind fun _ =>
      (ofExcept (EntityType.plain_check _)).bind fun _ => .pure _
  · exact (ofExcept (EntityType.plain_rejectKey _)).bind fun _ =>
      (allocateKeys reports m 1).bind fun _ =>
        (ofExcept (EntityType.plain_check _)).bind fun _ => .pure _

theorem create (m : TableMapping) (values : Record) :
    Orderly (Session.create m values : Work σ _) :=
  (newRecord reports m values).bind fun _ =>
    (access (TableMapping.plain_insertRow reports _)).bind fun _ =>
      changeCache _ (IdentityCache.keepsType_mergeRecord _)

theorem createEach (m : TableMapping) (values : List Record) :
    Orderly (Session.createEach m values : Work σ _) := by
  induction values with
  | nil => exact .pure []
  | cons r rest ih => exact (create reports m r).bind fun _ => ih.bind fun _ => .pure _

theorem insertTogether (m : TableMapping) (records : List Record) :
    Orderly (Session.insertTogether m records : Work σ _) :=
  current.bind fun _ => (ofExcept (EntityType.plain_checkAll _)).bind fun _ =>
    (access (TableMapping.plain_insertRows reports _ _)).bind fun _ =>
      changeCache _ (IdentityCache.keepsType_mergeRecords _)

theorem createBatch (typeName : String) (values : List Record) :
    Orderly (Session.createBatch typeName values : Work σ _) := by
  refine (resolve typeName).bind fun found => ?_
  dsimp only
  split
  · exact (ofExcept (EntityType.plain_requireKeys _ _)).bind fun _ => insertTogether reports _ _
  · exact (ofExcept (EntityType.plain_rejectKeys _)).bind fun _ =>
      (allocateKeys reports _ _).bind fun _ => insertTogether reports _ _
  · exact createEach reports _ _

theorem createBatches (groups : List (String × List (Draft × Nat))) :
    Orderly (Session.createBatches groups : Work σ _) := by
  induction groups with
  | nil => exact .pure []
  | cons group rest ih =>
    exact (createBatch reports _ _).bind fun _ => ih.bind fun _ => .pure _

theorem baseRecord (c : IdentityCache) (m : TableMapping) (key : EntityKey) :
    Orderly (Session.baseRecord c m key : Work σ _) := by
  unfold Session.baseRecord
  split
  · exact .pure _
  · refine (access (TableMapping.plain_fetchKeys reports _)).bind fun records => ?_
    split
    · exact .pure _
    · exact throw rfl

theorem modify (c : IdentityCache) (m : TableMapping) (key : EntityKey) (values : Record) :
    Orderly (Session.modify c m key values : Work σ _) := by
  have changed (base record : Record) : Orderly (Work.changeCache m.entityType.name fun c =>
      c.mergeChange base record : Work σ Handle) :=
    changeCache _ (IdentityCache.keepsType_mergeChange base record)
  unfold Session.modify
  dsimp only
  split
  on_goal 1 => split
  on_goal 1 => refine (throw rfl).bind fun _ => ?_
  -- what is left is the same work in all three cases
  all_goals
    refine (baseRecord reports c m key).bind fun base => ?_
    refine (ofExcept (EntityType.plain_check _)).bind fun _ => ?_
    refine (access (TableMapping.plain_updateRow reports _)).bind fun met => ?_
    split
    · refine (access (TableMapping.plain_rowExists reports key)).bind fun present => ?_
      split
      · exact (changeCache _ (IdentityCache.keepsType_evict key)).bind fun _ =>
          (throw rfl).bind fun _ => changed _ _
      · exact changed _ _
    · exact changed _ _

theorem persist (d : Draft) : Orderly (Session.persist d : Work σ _) := by
  refine (resolve _).bind fun found => ?_
  dsimp only
  split
  · exact create reports _ _
  · exact modify reports _ _ _ _

theorem persistEach (drafts : List (Draft × Nat)) :
    Orderly (Session.persistEach drafts : Work σ _) := by
  induction drafts with
  | nil => exact .pure []
  | cons d rest ih => exact (persist reports d.1).bind fun _ => ih.bind fun _ => .pure _

theorem persistAll (drafts : List Draft) : Orderly (Session.persistAll drafts : Work σ _) :=
  (createBatches reports _).bind fun _ => (persistEach reports _).bind fun _ => .pure _

end Orderly

end Session

end IdentityMap
