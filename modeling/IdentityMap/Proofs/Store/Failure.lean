import IdentityMap.Proofs.Store.Operation
/-!
# Failed requests

A request that fails leaves every cache as it is and tells the triggers nothing, whatever the row
store does (`Request.failed_quiet`). There is one exception: a change whose row turns out to be gone
fails, and the key is evicted (`Session.persist_gone`). Several drafts are persisted as one only
where all of them make instances of one type whose keys are known beforehand.
-/

namespace IdentityMap

variable {σ τ : Type} [RowStore σ] {s s' : Session σ} {c c' : IdentityCache} {key : EntityKey}

/-! ### A row that is gone -/

namespace IdentityCache

/-- One key has left the cache, and nothing else has changed. -/
structure Evicted (c : IdentityCache) (key : EntityKey) (c' : IdentityCache) : Prop where
  gone : c'.get? key = none
  others : ∀ k, k ≠ key → c'.get? k = c.get? k
  synced : c'.synced = c.synced

theorem evicted_evict (c : IdentityCache) (key : EntityKey) : c.Evicted key (c.evict key).2 where
  gone := get?_remove_self c key
  others _ differ := get?_remove_of_ne c (Ne.symm differ)
  synced := remove_synced c key

end IdentityCache

namespace Session

/-- The row of a change is gone: the statement meets no row, and the look-up of the key after it
finds none. -/
structure RowGone (s : Session σ) (d : Draft) (c : IdentityCache) (key : EntityKey) : Prop where
  intent : d.intent = .modify key
  cached : s.caches.get? d.entityType.name = some c
  unmet : ∃ t base g g', Begun s t c key d.values base ∧
    TableMapping.updateRow ⟨c.entityType⟩ (changed c.entityType base d.values key) t.gateway
      = (.ok 0, g) ∧
    TableMapping.rowExists ⟨c.entityType⟩ key g = (.ok false, g')

/-- A change whose row is gone fails and evicts the key. -/
theorem persist_gone (sound : s.Sound) {d : Draft} {o : Except Error Handle}
    (gone : s.RowGone d c key) (run : persist d s = (o, s')) :
    o = .error (c.entityType.notFound key) ∧
      Alters s s' c.entityType.name c (c.evict key).2 (c.evict key).1.2 := by
  obtain ⟨intent, cached, t, base, g, g', begun, unmet, missing⟩ := gone
  have named := sound.named _ c cached
  have own : s.caches.get? c.entityType.name = some c := by rw [named, cached]
  unfold persist at run
  have resolved : (Work.resolve d.entityType.name : Work σ _) s = (.ok (c, ⟨c.entityType⟩), s) := by
    simp [Work.resolve, Work.cache_eq_ok.2 cached,
      Work.mapping_eq_ok.2 (sound.mapped _ c cached), Except.map]
  rw [bind_of_ok resolved] at run
  simp only [intent] at run
  rcases modify_eq c key d.values s with ⟨misnamed, _⟩ | ⟨_, same⟩
  · exact absurd begun.named misnamed
  rw [same] at run
  unfold overwrite at run
  rw [bind_of_ok begun.looked] at run
  have passed : (Work.ofExcept
      (c.entityType.check (changed c.entityType base d.values key)) : Work σ Unit) t
        = (.ok (), t) := by
    rw [begun.fits]
    rfl
  rw [bind_of_ok passed] at run
  have quiet : Quiet s t := begun.base.looks.toQuiet
  rw [bind_of_ok (Work.access_eq unmet)] at run
  simp only [if_true] at run
  have looked : Work.access (TableMapping.rowExists ⟨c.entityType⟩ key) { t with gateway := g }
      = (.ok false, { t with gateway := g' }) := Work.access_eq missing
  rw [bind_of_ok looked] at run
  simp only [Bool.not_false, if_true] at run
  have last : Quiet s { t with gateway := g' } := quiet.trans ⟨rfl, rfl, rfl, rfl⟩
  obtain ⟨failed, _, alters⟩ := evict_cases own last run
  exact ⟨failed, alters⟩

/-! ### Drafts of one type -/

theorem createBatch_failed_quiet (sound : s.Sound) {typeName : String} {values : List Record}
    {e : Error}
    (assigned : ∀ c, s.caches.get? typeName = some c → c.entityType.assignment ≠ .backend)
    (run : createBatch typeName values s = (.error e, s')) : Quiet s s' := by
  rcases createBatch_cases sound run with ⟨_, _, looks⟩ |
    ⟨c, t, records, _, _, _, looks, ends, _⟩ | ⟨c, cached, _, backend, _⟩
  · exact looks.toQuiet
  · cases ends with
    | refused _ later => exact looks.toQuiet.trans later.toQuiet
    | uninserted _ _ _ quiet => exact looks.toQuiet.trans quiet
  · exact absurd backend (assigned c cached)

/-- Elements that all go by one name make one group, if there are any. -/
theorem grouped_of_forall {β : Type} {key : β → String} {name : String} {l : List β}
    (same : ∀ b ∈ l, key b = name) : grouped key l = if l = [] then [] else [(name, l)] := by
  cases l with
  | nil => rfl
  | cons b rest =>
    have names : distinct ((b :: rest).map key) = [name] := by
      have others : ∀ n ∈ distinct (rest.map key), n = name := by
        intro n listed
        obtain ⟨b', member, rfl⟩ := List.mem_map.1 (mem_distinct.1 listed)
        exact same b' (List.mem_cons_of_mem _ member)
      rw [List.map_cons, distinct, same b List.mem_cons_self]
      congr 1
      exact List.filter_eq_nil_iff.2 fun n listed => by simp [others n listed]
    have all : (b :: rest).filter (fun b' => key b' = name) = b :: rest :=
      List.filter_eq_self.2 fun b' member => by simpa using same b' member
    unfold grouped
    rw [names, List.map_cons, all, List.map_nil, if_neg (List.cons_ne_nil b rest)]

/-- Drafts of new instances of one type whose keys are known beforehand are persisted as one batch;
the instances are put back into the places of their drafts. -/
theorem persistAll_together {drafts : List Draft} {typeName : String} (some : drafts ≠ [])
    (batchable : ∀ d ∈ drafts, d.isBatchable = true ∧ d.entityType.name = typeName)
    (s : Session σ) :
    persistAll drafts s = (do
      let handles ← createBatch typeName (drafts.map (·.values))
      return (List.range drafts.length).filterMap fun place =>
        List.lookup place ((List.range drafts.length).zip handles) : Work σ (List Handle)) s := by
  have listed : ∀ p ∈ drafts.zipIdx, p.1.isBatchable = true ∧ p.1.entityType.name = typeName :=
    fun p member => batchable p.1 (List.fst_mem_of_mem_zipIdx member)
  have split : drafts.zipIdx.partition (·.1.isBatchable) = (drafts.zipIdx, []) := by
    rw [List.partition_eq_filter_filter]
    congr 1
    · exact List.filter_eq_self.2 fun p member => (listed p member).1
    · exact List.filter_eq_nil_iff.2 fun p member => by simp [(listed p member).1]
  have values : drafts.zipIdx.map (·.1.values) = drafts.map (·.values) := by
    have same := congrArg (List.map Draft.values) (List.zipIdx_map_fst 0 drafts)
    rwa [List.map_map] at same
  have places : drafts.zipIdx.map (·.2) = List.range drafts.length := by
    rw [List.zipIdx_map_snd, List.range_eq_range']
  unfold persistAll
  simp only [split]
  rw [grouped_of_forall fun p member => (listed p member).2, if_neg (by simpa using some)]
  simp only [createBatches, persistEach, values, places, bind_assoc, pure_bind, List.append_nil]

/-- Drafts of new instances of one type whose keys are known beforehand are all or nothing. -/
theorem persistAll_failed_quiet (sound : s.Sound) {drafts : List Draft} {typeName : String}
    {e : Error} (batchable : ∀ d ∈ drafts, d.isBatchable = true ∧ d.entityType.name = typeName)
    (assigned : ∀ c, s.caches.get? typeName = some c → c.entityType.assignment ≠ .backend)
    (run : persistAll drafts s = (.error e, s')) : Quiet s s' := by
  by_cases none : drafts = []
  · subst none
    cases (pure_cases run).1
  rw [persistAll_together none batchable] at run
  rcases bind_cases run with ⟨_, failed, _⟩ | ⟨_, _, _, impossible⟩
  · exact createBatch_failed_quiet sound assigned failed
  · cases (pure_cases impossible).1

end Session

/-! ### Every request -/

namespace Request

open Session

/-- The request is done as a whole or not at all: of several drafts all make instances of one type
whose keys are known beforehand. -/
def Atomic (s : Session σ) : Request → Prop
  | persistAll drafts => ∃ t : EntityType, (∀ d ∈ drafts, d.intent = .create ∧ d.entityType = t) ∧
      t.assignment ≠ .backend ∧
      ∀ c, s.caches.get? t.name = some c → c.entityType.assignment ≠ .backend
  | _ => True

/-- A request that fails has left the caches and the outbox alone, unless it found a row gone. -/
theorem failed_quiet (sound : s.Sound) {observed : String → Bool} {r : Request} {e : Error}
    (atomic : r.Atomic s) (run : r.run observed s = (.error e, s')) :
    Quiet s s' ∨ ∃ d c key, r = .persist d ∧ s.RowGone d c key := by
  have unanswered {α : Type} {instances : α → List Handle} {w : Work σ α}
      (run : instancesIn instances (w s) = (.error e, s')) : w s = (.error e, s') := by
    obtain ⟨answer, ran, same⟩ := instancesIn_cases run
    cases answer <;> cases same
    exact ran
  have looked {typeName : String} (ends : Ends s s' typeName (.error e)) : Quiet s s' := by
    cases ends with
    | failed _ looks => exact looks.toQuiet
  cases r with
  | register t =>
    refine .inl ?_
    cases register_ends (unanswered run) with
    | refused _ same => exact same ▸ .refl s
    | uncreated _ _ quiet => exact quiet
    | created _ _ enrolled =>
      rcases enrolled with ⟨_, _, quiet⟩ | ⟨impossible, _⟩
      · exact quiet
      · cases impossible
    | enrolled _ _ enrolled =>
      rcases enrolled with ⟨_, _, quiet⟩ | ⟨impossible, _⟩
      · exact quiet
      · cases impossible
  | get typeName key policy => exact .inl (looked (get_ends sound (unanswered run)))
  | getSome typeName keys policy => exact .inl (looked (getSome_ends sound run))
  | getAll typeName policy => exact .inl (looked (getAll_ends sound run))
  | getSize typeName policy => exact .inl (looked (getSize_ends sound (unanswered run)))
  | persist d =>
    rcases persist_cases sound (unanswered run) with ⟨_, _, looks⟩ |
      ⟨c, cached, named, ⟨_, ends⟩ | ⟨key, intent, ends⟩⟩
    · exact .inl looks.toQuiet
    · cases ends with
      | refused _ looks => exact .inl looks.toQuiet
      | uninserted _ _ _ _ quiet => exact .inl quiet
    · cases ends with
      | refused _ looks => exact .inl looks.toQuiet
      | unwritten _ _ _ quiet => exact .inl quiet
      | unconfirmed _ _ _ _ quiet => exact .inl quiet
      | gone begun unmet missing _ =>
        exact .inr ⟨d, c, key, rfl, intent, cached, _, _, _, _, begun, unmet, missing⟩
  | persistAll drafts =>
    obtain ⟨t, alike, known, assigned⟩ := atomic
    refine .inl (persistAll_failed_quiet sound (fun d member => ?_) assigned run)
    obtain ⟨intent, sameType⟩ := alike d member
    exact ⟨by simp [Draft.isBatchable, intent, sameType, known], by rw [sameType]⟩
  | deleteKeys typeName keys =>
    refine .inl ?_
    rcases deleteKeys_cases sound (unanswered run) with ⟨_, _, looks⟩ | ⟨c, _, _, ends⟩
    · exact looks.toQuiet
    · cases ends with
      | refused _ looks => exact looks.toQuiet
      | undeleted _ _ _ quiet => exact quiet
  | deleteAll typeName =>
    refine .inl ?_
    rcases deleteAll_cases sound (unanswered run) with ⟨_, _, looks⟩ | ⟨c, _, _, ends⟩
    · exact looks.toQuiet
    · cases ends with
      | undeleted _ _ quiet => exact quiet
  | refreshKeys typeName keys => exact .inl (looked (refreshKeys_ends sound run))
  | refreshType typeName => exact .inl (looked (refreshType_ends sound (unanswered run)))

end Request

namespace Store

open Session

variable [TriggerHost τ] {store : Store σ τ}

/-- A failed request leaves every cache with its keys, instances, records and mark as it was, and no
trigger is told of anything. Only where the row of a change is gone the key is evicted, and triggers
are told of that alone. -/
theorem failed_request (reachable : store.Reachable) {r : Request} {e : Error}
    (atomic : r.Atomic store.session) (failed : (store.ask r).1 = .error e) :
    ((¬ ∃ d c key, r = .persist d ∧ store.session.RowGone d c key) →
      (store.ask r).2.session.caches = store.session.caches ∧ store.dispatched r = []) ∧
    ∀ d c key, r = .persist d → store.session.RowGone d c key →
      e = c.entityType.notFound key ∧
      (∃ c', c.Evicted key c' ∧
        (store.ask r).2.session.caches = store.session.caches.insert d.entityType.name c') ∧
      store.dispatched r =
        (c.get? key).toList.map fun i => ⟨c.entityType, key, .deleted (some i.record)⟩ := by
  have sound := reachable.sound
  obtain ⟨o, s', ran, outcome, after, events⟩ := ask_cases r store
  rw [outcome] at failed
  subst failed
  rw [after, events]
  constructor
  · intro present
    rcases Request.failed_quiet sound atomic ran with quiet | gone
    · exact ⟨quiet.caches, quiet.outbox.trans reachable.outbox⟩
    · exact absurd gone present
  · rintro d c key rfl gone
    obtain ⟨answer, persisted, same⟩ := Request.instancesIn_cases ran
    obtain ⟨rfl, alters⟩ := persist_gone sound gone persisted
    cases same
    have named := sound.named _ c gone.cached
    refine ⟨rfl, ⟨_, IdentityCache.evicted_evict c key, ?_⟩, ?_⟩
    · rw [alters.caches, named]
    · rw [alters.outbox, reachable.outbox, List.nil_append]
      exact IdentityCache.evict_events (sound.caches _ c gone.cached) key

/-- A lookup that gets the wrong kind of reply leaves the caches alone; a change of a gauge whose
row is gone reports the gauge as deleted. -/
theorem failed_request_gauge :
    let s := (Sample.opened [.count 1, .count 0, .rows []]).after
      [.request (.register Sample.gauge),
        .request (.persist ⟨Sample.gauge, .create, Sample.level 1 5⟩)]
    let lookup := Request.getSome "Gauge" [.int 2] .cacheFirst
    let change : Draft := ⟨Sample.gauge, .modify (.int 1), OrderedMap.ofList [("level", .null)]⟩
    (s.ask lookup).1 = .error (.backend "script" "wrong kind of reply") ∧
      (s.ask lookup).2.session.caches = s.session.caches ∧
      (s.ask (.persist change)).1 = .error (.notFound "Gauge" "1") ∧
      s.dispatched (.persist change)
        = [⟨Sample.gauge, .int 1, .deleted (some (Sample.level 1 5))⟩] := by
  intro s lookup change
  have reachable : s.Reachable := Sample.reachable_after _ _
  have unanswered : (s.ask lookup).1 = .error (.backend "script" "wrong kind of reply") := by
    decide +kernel
  have untouched := (failed_request reachable (r := lookup) trivial unanswered).1
    (by simp [lookup])
  -- the cache before the change, and the two calls of the change
  let c : IdentityCache := ⟨Sample.gauge,
    OrderedMap.ofList [(.int 1, ⟨0, .int 1, Sample.level 1 5, 0⟩)], [], 1, false⟩
  let record := changed Sample.gauge (Sample.level 1 5) change.values (.int 1)
  let update := TableMapping.updateRow ⟨Sample.gauge⟩ record s.session.gateway
  let look := TableMapping.rowExists ⟨Sample.gauge⟩ (.int 1) update.2
  have cached : s.session.caches.get? "Gauge" = some c := by decide +kernel
  have unmet : update.1 = .ok 0 := by rfl
  have missing : look.1 = .ok false := by rfl
  have named : NamesKey Sample.gauge change.values (.int 1) := by
    intro v given
    have none : change.values.get? "id" = none := by decide +kernel
    exact absurd (none.symm.trans given) (by simp)
  have gone : s.session.RowGone change c (.int 1) :=
    ⟨rfl, cached, s.session, Sample.level 1 5, update.2, look.2, ⟨named, rfl, by decide +kernel⟩,
      Prod.ext unmet rfl, Prod.ext missing rfl⟩
  have failed : (s.ask (.persist change)).1 = .error (.notFound "Gauge" "1") := by decide +kernel
  have evicted := (failed_request reachable (r := .persist change) trivial failed).2
    change c (.int 1) rfl gone
  exact ⟨unanswered, untouched.1, failed, evicted.2.2⟩

end Store

end IdentityMap
