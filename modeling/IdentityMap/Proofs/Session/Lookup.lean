import IdentityMap.Proofs.Gateway
import IdentityMap.Proofs.Session.Sound
import IdentityMap.Session.Lookup
/-!
# The outcomes of lookups

A lookup that fails has queried the row store at most. One that succeeds has left the caches alone,
or it has merged one answer into the cache of its type.
-/

namespace IdentityMap.Session

variable {σ : Type} [RowStore σ] {s s' : Session σ}

/-- A session that has only been read from; the row store may have been queried. -/
structure Looks (s s' : Session σ) : Prop extends Quiet s s' where
  reads : Gateway.Reads s.gateway s'.gateway

theorem Looks.refl (s : Session σ) : Looks s s := ⟨.refl s, .refl _⟩

theorem Looks.trans {t : Session σ} (first : Looks s t) (later : Looks t s') : Looks s s' :=
  ⟨first.toQuiet.trans later.toQuiet, first.reads.trans later.reads⟩

theorem looks_countLookups {hits misses : Nat} {o : Except Error Unit}
    (run : (Work.countLookups hits misses : Work σ Unit) s = (o, s')) :
    o = .ok () ∧ s'.gateway = s.gateway ∧ Looks s s' := by
  obtain ⟨rfl, same, quiet⟩ := Work.countLookups_cases run
  exact ⟨rfl, same, quiet, same ▸ .refl _⟩

/-! ### Merging answers -/

/-- The keys of `m` were fetched and merged into its cache. -/
structure Fetched (s s' : Session σ) (m : TableMapping) (keys : List EntityKey)
    (records : List Record) (c : IdentityCache) (handles : List Handle) (events : List Event)
    (c' : IdentityCache) : Prop where
  fetched : m.fetchKeys keys s.gateway = (.ok records, s'.gateway)
  merged : c.mergeFetched keys records = .ok ((handles, events), c')
  alters : Alters s s' m.entityType.name c c' events

/-- The table of `m` was loaded and merged into its cache. -/
structure Loaded (s s' : Session σ) (m : TableMapping) (records : List Record) (c : IdentityCache)
    (handles : List Handle) (events : List Event) (c' : IdentityCache) : Prop where
  fetched : m.fetchAll s.gateway = (.ok records, s'.gateway)
  merged : c.mergeTable records = .ok ((handles, events), c')
  alters : Alters s s' m.entityType.name c c' events

variable {m : TableMapping} {o : Except Error (List Handle)}

theorem fetchKeys_cases {keys : List EntityKey} (run : fetchKeys m keys s = (o, s')) :
    (∃ e, o = .error e ∧ Looks s s') ∨
    ∃ records c handles events c', o = .ok handles ∧
      Fetched s s' m keys records c handles events c' := by
  unfold fetchKeys at run
  rcases Work.access_bind run with ⟨e, rfl, failed, quiet⟩ | ⟨records, t, fetched, quiet, merge⟩
  · exact .inl ⟨e, rfl, quiet, (TableMapping.fetchKeys_cases failed).1⟩
  have looks : Looks s t := ⟨quiet, (TableMapping.fetchKeys_cases fetched).1⟩
  rcases Work.changeCache_cases merge with ⟨e, rfl, rfl, _⟩ | ⟨c, handles, events, c', rfl, same,
    merged, alters⟩
  · exact .inl ⟨e, rfl, looks⟩
  · exact .inr ⟨records, c, handles, events, c', rfl, same ▸ fetched, merged, quiet.alters alters⟩

/-- Keys that can be fetched and merged are. -/
theorem fetchKeys_made {keys : List EntityKey} {records : List Record} {g : Gateway σ}
    {c c' : IdentityCache} {handles : List Handle} {events : List Event}
    (cached : s.caches.get? m.entityType.name = some c)
    (fetched : m.fetchKeys keys s.gateway = (.ok records, g))
    (merged : c.mergeFetched keys records = .ok ((handles, events), c'))
    (run : fetchKeys m keys s = (o, s')) :
    o = .ok handles ∧ Alters s s' m.entityType.name c c' events := by
  unfold fetchKeys at run
  rcases Work.access_bind run with ⟨e, _, failed, _⟩ | ⟨brought, t, called, quiet, merge⟩
  · rw [fetched] at failed
    cases failed
  · rw [fetched] at called
    cases called
    have still : t.caches.get? m.entityType.name = some c := by rw [quiet.caches, cached]
    obtain ⟨same, _, alters⟩ := Work.changeCache_made still merged merge
    exact ⟨same, quiet.alters alters⟩

theorem reload_cases (run : reload m s = (o, s')) :
    (∃ e, o = .error e ∧ Looks s s') ∨
    ∃ records c handles events c', o = .ok handles ∧
      Loaded s s' m records c handles events c' := by
  unfold reload at run
  rcases Work.access_bind run with ⟨e, rfl, failed, quiet⟩ | ⟨records, t, fetched, quiet, merge⟩
  · exact .inl ⟨e, rfl, quiet, (TableMapping.fetchAll_cases failed).1⟩
  have looks : Looks s t := ⟨quiet, (TableMapping.fetchAll_cases fetched).1⟩
  rcases Work.changeCache_cases merge with ⟨e, rfl, rfl, _⟩ | ⟨c, handles, events, c', rfl, same,
    merged, alters⟩
  · exact .inl ⟨e, rfl, looks⟩
  · exact .inr ⟨records, c, handles, events, c', rfl, same ▸ fetched, merged, quiet.alters alters⟩

theorem Fetched.after_looks {t : Session σ} {keys : List EntityKey} {records : List Record}
    {c c' : IdentityCache} {handles : List Handle} {events : List Event} (looks : Looks s t)
    (same : t.gateway = s.gateway) (fetched : Fetched t s' m keys records c handles events c') :
    Fetched s s' m keys records c handles events c' :=
  ⟨same ▸ fetched.fetched, fetched.merged, looks.toQuiet.alters fetched.alters⟩

theorem Loaded.after_looks {t : Session σ} {records : List Record} {c c' : IdentityCache}
    {handles : List Handle} {events : List Event} (looks : Looks s t)
    (same : t.gateway = s.gateway) (loaded : Loaded t s' m records c handles events c') :
    Loaded s s' m records c handles events c' :=
  ⟨same ▸ loaded.fetched, loaded.merged, looks.toQuiet.alters loaded.alters⟩

/-! ### Lookups of keys -/

/-- The instances that a plan answers with, once its keys have been fetched. -/
def answerOf (plan : LookupPlan) (fetched : List Handle) : List Handle :=
  plan.keys.filterMap fun key => (fetched ++ plan.hits).find? (·.key = key)

/-- A lookup of keys merges the answer to one query, unless its plan has nothing to fetch. -/
theorem getSome_cases (sound : s.Sound) {typeName : String} {keys : List EntityKey}
    {policy : CachePolicy} (run : getSome typeName keys policy s = (o, s')) :
    (∃ e, o = .error e ∧ Looks s s') ∨
    ∃ c fetched, s.caches.get? typeName = some c ∧
      o = .ok (answerOf (c.planLookup keys policy) fetched) ∧
      ((c.planLookup keys policy).fetch = [] ∧ fetched = [] ∧ Looks s s' ∨
        ∃ records events c', Fetched s s' ⟨c.entityType⟩ (c.planLookup keys policy).fetch records c
          fetched events c') := by
  unfold getSome at run
  rcases sound.resolve_bind run with ⟨e, rfl, rfl⟩ | ⟨c, cached, mapped, named, run₁⟩
  · exact .inl ⟨e, rfl, .refl _⟩
  dsimp only at run₁
  have counted : ∃ t, t.gateway = s.gateway ∧ Looks s t ∧
      (do
        let fetched ← if (c.planLookup keys policy).fetch = [] then pure []
          else fetchKeys ⟨c.entityType⟩ (c.planLookup keys policy).fetch
        return answerOf (c.planLookup keys policy) fetched : Work σ _) t = (o, s') := by
    split at run₁
    · rcases bind_cases run₁ with ⟨e, failed, _⟩ | ⟨_, t, counted, run₂⟩
      · cases (looks_countLookups failed).1
      · obtain ⟨_, same, looks⟩ := looks_countLookups counted
        exact ⟨t, same, looks, run₂⟩
    · exact ⟨s, rfl, .refl s, run₁⟩
  obtain ⟨t, same, looks, run₂⟩ := counted
  split at run₂
  · rename_i nothing
    rcases bind_cases run₂ with ⟨e, failed, _⟩ | ⟨_, u, started, run₃⟩
    · cases (pure_cases failed).1
    obtain ⟨fetched, rfl⟩ := pure_cases started
    cases fetched
    obtain ⟨rfl, rfl⟩ := pure_cases run₃
    exact .inr ⟨c, [], cached, rfl, .inl ⟨nothing, rfl, looks⟩⟩
  · rcases bind_cases run₂ with ⟨e, failed, rfl⟩ | ⟨fetched, u, ran, run₃⟩
    · rcases fetchKeys_cases failed with ⟨e, _, later⟩ | ⟨_, _, _, _, _, impossible, _⟩
      · exact .inl ⟨_, rfl, looks.trans later⟩
      · cases impossible
    obtain ⟨rfl, rfl⟩ := pure_cases run₃
    rcases fetchKeys_cases ran with ⟨e, impossible, _⟩ | ⟨records, c₁, handles, events, c',
      answered, merged⟩
    · cases impossible
    cases answered
    have merged := merged.after_looks looks same
    obtain rfl := merged.alters.unique (by rw [named]; exact cached)
    exact .inr ⟨c₁, fetched, cached, rfl, .inr ⟨records, events, c', merged⟩⟩

/-- A refresh of one key that can be fetched and merged answers with the key's instance. -/
theorem get_refresh {typeName : String} {key : EntityKey} {records : List Record} {g : Gateway σ}
    {c c' : IdentityCache} {handles : List Handle} {events : List Event} (sound : s.Sound)
    (cached : s.caches.get? typeName = some c)
    (fetched : TableMapping.fetchKeys ⟨c.entityType⟩ [key] s.gateway = (.ok records, g))
    (merged : c.mergeFetched [key] records = .ok ((handles, events), c'))
    {o : Except Error (Option Handle)} (run : get typeName key .forceRefresh s = (o, s')) :
    o = .ok (handles.find? (·.key = key)) ∧ Alters s s' typeName c c' events := by
  have named : c.entityType.name = typeName := sound.named _ c cached
  have made {o : Except Error (List Handle)} {t : Session σ}
      (ran : fetchKeys ⟨c.entityType⟩ [key] s = (o, t)) :=
    fetchKeys_made (by rw [named, cached]) fetched merged ran
  have plan : c.planLookup [key] .forceRefresh = ⟨[key], [], [key], 0⟩ := by
    simp [IdentityCache.planLookup, distinct]
  have looked {o : Except Error (List Handle)} {t : Session σ}
      (run : getSome typeName [key] .forceRefresh s = (o, t)) :
      o = .ok (handles.find? (·.key = key)).toList ∧ Alters s t typeName c c' events := by
    unfold getSome at run
    rw [bind_of_ok (sound.resolve_ok cached)] at run
    simp only [plan] at run
    rw [if_neg (by simp), if_neg (by simp)] at run
    rcases bind_cases run with ⟨e, failed, _⟩ | ⟨brought, u, ran, done⟩
    · cases (made failed).1
    · obtain ⟨same, alters⟩ := made ran
      cases same
      obtain ⟨rfl, rfl⟩ := pure_cases done
      refine ⟨?_, named ▸ alters⟩
      rw [List.append_nil, List.filterMap_cons, List.filterMap_nil]
      cases handles.find? (·.key = key) <;> rfl
  unfold get at run
  rcases bind_cases run with ⟨e, failed, _⟩ | ⟨found, t, ran, done⟩
  · cases (looked failed).1
  · obtain ⟨same, alters⟩ := looked ran
    cases same
    obtain ⟨rfl, rfl⟩ := pure_cases done
    refine ⟨?_, alters⟩
    cases handles.find? (·.key = key) <;> rfl

/-! ### How a lookup ends -/

/-- The ways in which a lookup of a type ends that answers with instances. -/
inductive Ends (s s' : Session σ) (typeName : String) : Except Error (List Handle) → Prop
  | failed (e : Error) (looks : Looks s s') : Ends s s' typeName (.error e)
  | served (handles : List Handle) (looks : Looks s s') (held : ∀ h ∈ handles, s'.Holds h) :
    Ends s s' typeName (.ok handles)
  | fetched {keys : List EntityKey} {records : List Record} {c c' : IdentityCache}
    {answered : List Handle} {events : List Event} (handles : List Handle)
    (named : c.entityType.name = typeName)
    (fetched : Fetched s s' ⟨c.entityType⟩ keys records c answered events c')
    (once : keys.Nodup) (held : ∀ h ∈ handles, s'.Holds h) : Ends s s' typeName (.ok handles)
  | loaded {records : List Record} {c c' : IdentityCache} {answered : List Handle}
    {events : List Event} (handles : List Handle) (named : c.entityType.name = typeName)
    (loaded : Loaded s s' ⟨c.entityType⟩ records c answered events c')
    (held : ∀ h ∈ handles, s'.Holds h) : Ends s s' typeName (.ok handles)

/-- What is said of fewer instances still holds. -/
theorem Ends.mono {typeName : String} {handles fewer : List Handle}
    (ends : Ends s s' typeName (.ok handles)) (subset : ∀ h ∈ fewer, h ∈ handles) :
    Ends s s' typeName (.ok fewer) := by
  cases ends with
  | served _ looks held => exact .served fewer looks fun h member => held h (subset h member)
  | fetched _ named fetched once held =>
    exact .fetched fewer named fetched once fun h member => held h (subset h member)
  | loaded _ named loaded held =>
    exact .loaded fewer named loaded fun h member => held h (subset h member)

theorem Fetched.holds (sound : s.Sound) {c c' : IdentityCache} {keys : List EntityKey}
    {records : List Record} {handles : List Handle} {events : List Event}
    (fetched : Fetched s s' ⟨c.entityType⟩ keys records c handles events c') {h : Handle}
    (held : c'.Holds h) : s'.Holds h := by
  have merged := IdentityCache.mergeFetched_merged (sound.caches _ c fetched.alters.cached)
    fetched.merged
  exact holds_of_get? fetched.alters.get?_self
    (by rw [merged.steps.entityType]) held

theorem Loaded.holds (sound : s.Sound) {c c' : IdentityCache} {records : List Record}
    {handles : List Handle} {events : List Event}
    (loaded : Loaded s s' ⟨c.entityType⟩ records c handles events c') {h : Handle}
    (held : c'.Holds h) : s'.Holds h := by
  have merged := IdentityCache.mergeTable_merged (sound.caches _ c loaded.alters.cached)
    loaded.merged
  exact holds_of_get? loaded.alters.get?_self (by rw [merged.steps.entityType]) held

theorem Loaded.ends (sound : s.Sound) {c c' : IdentityCache} {records : List Record}
    {handles : List Handle} {events : List Event}
    (loaded : Loaded s s' ⟨c.entityType⟩ records c handles events c') :
    Ends s s' c.entityType.name (.ok handles) := by
  have merged := IdentityCache.mergeTable_merged (sound.caches _ c loaded.alters.cached)
    loaded.merged
  exact .loaded handles rfl loaded fun h member => loaded.holds sound (merged.holds h member)

/-! ### The plan of a lookup -/

theorem nodup_fetch (c : IdentityCache) (keys : List EntityKey) (policy : CachePolicy) :
    (c.planLookup keys policy).fetch.Nodup := by
  have once := nodup_distinct keys
  cases policy with
  | cacheOnly => exact .nil
  | cacheFirst => exact (nodup_distinct _).filter _
  | forceRefresh => exact once

/-- The cache serves only what it caches, and nothing that is fetched. -/
theorem mem_hits {c : IdentityCache} {keys : List EntityKey} {policy : CachePolicy} {h : Handle}
    (hit : h ∈ (c.planLookup keys policy).hits) :
    ∃ key i, c.get? key = some i ∧ h = c.handleOf i ∧ key ∉ (c.planLookup keys policy).fetch := by
  have cached : ∀ keys, h ∈ (c.partition keys).1 →
      ∃ key i, c.get? key = some i ∧ h = c.handleOf i := by
    intro keys listed
    obtain ⟨key, _, found⟩ := List.mem_filterMap.1 listed
    obtain ⟨i, cached, rfl⟩ := Option.map_eq_some_iff.1 found
    exact ⟨key, i, cached, rfl⟩
  cases policy with
  | cacheOnly =>
    obtain ⟨key, i, found, same⟩ := cached _ hit
    exact ⟨key, i, found, same, List.not_mem_nil⟩
  | cacheFirst =>
    obtain ⟨key, i, found, same⟩ := cached _ hit
    refine ⟨key, i, found, same, fun missing => ?_⟩
    have absent := (List.mem_filter.1 missing).2
    have present : c.contains key = true := by
      unfold IdentityCache.contains OrderedMap.contains
      rw [show c.entries.get? key = some i from found]
      rfl
    simp [present] at absent
  | forceRefresh => cases hit

theorem mem_answerOf {plan : LookupPlan} {fetched : List Handle} {h : Handle}
    (answered : h ∈ answerOf plan fetched) : h ∈ fetched ∨ h ∈ plan.hits := by
  obtain ⟨key, _, found⟩ := List.mem_filterMap.1 answered
  exact List.mem_append.1 (List.mem_of_find?_eq_some found)

/-! ### Every lookup ends so -/

variable {typeName : String} {policy : CachePolicy}

theorem getSome_ends (sound : s.Sound) {keys : List EntityKey}
    (run : getSome typeName keys policy s = (o, s')) : Ends s s' typeName o := by
  rcases getSome_cases sound run with ⟨e, rfl, looks⟩ | ⟨c, fetched, cached, rfl,
    ⟨_, rfl, looks⟩ | ⟨records, events, c', merge⟩⟩
  · exact .failed e looks
  · refine .served _ looks fun h answered => ?_
    have hit : h ∈ (c.planLookup keys policy).hits := by simpa using mem_answerOf answered
    obtain ⟨key, i, found, rfl, _⟩ := mem_hits hit
    have held := (sound.caches _ c cached).holds_handleOf found
    exact holds_of_get? (by rw [looks.caches]; exact cached) (sound.named _ c cached) held
  · have cacheSound := sound.caches _ c cached
    have merged := IdentityCache.mergeFetched_merged cacheSound merge.merged
    have once := nodup_fetch c keys policy
    refine .fetched _ (sound.named _ c cached) merge once fun h answered => ?_
    rcases mem_answerOf answered with brought | hit
    · exact merge.holds sound (merged.holds h brought)
    · obtain ⟨key, i, found, rfl, spared⟩ := mem_hits hit
      obtain ⟨i', found', same⟩ :=
        IdentityCache.mergeFetched_kept cacheSound merge.merged spared found
      have held := (cacheSound.steps merged.steps).holds_handleOf found'
      rw [same] at held
      exact merge.holds sound held

theorem get_ends (sound : s.Sound) {key : EntityKey} {o : Except Error (Option Handle)}
    (run : get typeName key policy s = (o, s')) : Ends s s' typeName (o.map Option.toList) := by
  unfold get at run
  rcases bind_cases run with ⟨e, failed, rfl⟩ | ⟨found, t, looked, run₁⟩
  · exact getSome_ends sound failed
  · obtain ⟨rfl, rfl⟩ := pure_cases run₁
    exact (getSome_ends sound looked).mono fun h first =>
      List.mem_of_mem_head? (Option.mem_toList.1 first)

theorem refreshKeys_ends (sound : s.Sound) {keys : List EntityKey}
    (run : refreshKeys typeName keys s = (o, s')) : Ends s s' typeName o :=
  getSome_ends sound run

/-- A table lookup counts at most, and then loads the table. -/
theorem reload_ends (sound : s.Sound) {t : Session σ} {c : IdentityCache}
    (cached : s.caches.get? c.entityType.name = some c) (same : t.gateway = s.gateway)
    (looks : Looks s t) (run : reload ⟨c.entityType⟩ t = (o, s')) :
    Ends s s' c.entityType.name o := by
  rcases reload_cases run with ⟨e, rfl, later⟩ | ⟨records, c₁, handles, events, c', rfl, loaded⟩
  · exact .failed e (looks.trans later)
  · have loaded := loaded.after_looks looks same
    obtain rfl := loaded.alters.unique cached
    exact loaded.ends sound

theorem getAll_ends (sound : s.Sound) (run : getAll typeName policy s = (o, s')) :
    Ends s s' typeName o := by
  unfold getAll at run
  rcases sound.resolve_bind run with ⟨e, rfl, rfl⟩ | ⟨c, cached, mapped, named, run₁⟩
  · exact .failed e (.refl _)
  subst named
  cases planned : c.planTable policy with
  | cache =>
    simp only [planned] at run₁
    rcases bind_cases run₁ with ⟨e, failed, _⟩ | ⟨_, t, counted, run₂⟩
    · cases (looks_countLookups failed).1
    obtain ⟨_, _, looks⟩ := looks_countLookups counted
    obtain ⟨rfl, rfl⟩ := pure_cases run₂
    refine .served _ looks fun h listed => ?_
    obtain ⟨i, member, rfl⟩ := List.mem_map.1 listed
    obtain ⟨key, found⟩ := OrderedMap.mem_values_iff.1 member
    have held := (sound.caches _ c cached).holds_handleOf found
    exact holds_of_get? (by rw [looks.caches]; exact cached) rfl held
  | rowStore =>
    simp only [planned] at run₁
    split at run₁
    · rcases bind_cases run₁ with ⟨e, failed, _⟩ | ⟨_, t, counted, run₂⟩
      · cases (looks_countLookups failed).1
      · obtain ⟨_, same, looks⟩ := looks_countLookups counted
        exact reload_ends sound cached same looks run₂
    · exact reload_ends sound cached rfl (.refl s) run₁

theorem getSize_ends (sound : s.Sound) {o : Except Error Nat}
    (run : getSize typeName policy s = (o, s')) : Ends s s' typeName (o.map fun _ => []) := by
  unfold getSize at run
  rcases sound.resolve_bind run with ⟨e, rfl, rfl⟩ | ⟨c, cached, mapped, named, run₁⟩
  · exact .failed e (.refl _)
  subst named
  cases planned : c.planTable policy with
  | cache =>
    simp only [planned] at run₁
    rcases bind_cases run₁ with ⟨e, failed, _⟩ | ⟨_, t, counted, run₂⟩
    · cases (looks_countLookups failed).1
    obtain ⟨_, _, looks⟩ := looks_countLookups counted
    obtain ⟨rfl, rfl⟩ := pure_cases run₂
    exact .served [] looks (by simp)
  | rowStore =>
    simp only [planned] at run₁
    split at run₁
    · rcases bind_cases run₁ with ⟨e, failed, rfl⟩ | ⟨handles, t, loaded, run₂⟩
      · exact reload_ends sound cached rfl (.refl s) failed
      · obtain ⟨rfl, rfl⟩ := pure_cases run₂
        exact (reload_ends sound cached rfl (.refl s) loaded).mono (by simp)
    · rcases bind_cases run₁ with ⟨e, failed, _⟩ | ⟨_, t, counted, run₂⟩
      · cases (looks_countLookups failed).1
      obtain ⟨_, _, looks⟩ := looks_countLookups counted
      obtain ⟨asked, quiet⟩ := Work.access_cases run₂
      have looks : Looks s s' := looks.trans ⟨quiet, TableMapping.countRows_reads asked⟩
      cases o with
      | error e => exact .failed e looks
      | ok n => exact .served [] looks (by simp)

theorem refreshType_ends (sound : s.Sound) {o : Except Error Unit}
    (run : refreshType typeName s = (o, s')) : Ends s s' typeName (o.map fun _ => []) := by
  unfold refreshType at run
  rcases sound.resolve_bind run with ⟨e, rfl, rfl⟩ | ⟨c, cached, mapped, named, run₁⟩
  · exact .failed e (.refl _)
  subst named
  dsimp only at run₁
  split at run₁
  · rcases bind_cases run₁ with ⟨e, failed, rfl⟩ | ⟨handles, t, loaded, run₂⟩
    · exact reload_ends sound cached rfl (.refl s) failed
    · obtain ⟨rfl, rfl⟩ := pure_cases run₂
      exact (reload_ends sound cached rfl (.refl s) loaded).mono (by simp)
  · split at run₁
    · rcases bind_cases run₁ with ⟨e, failed, rfl⟩ | ⟨handles, t, ran, run₂⟩
      · rcases fetchKeys_cases failed with ⟨_, _, looks⟩ | ⟨_, _, _, _, _, impossible, _⟩
        · exact .failed e looks
        · cases impossible
      obtain ⟨rfl, rfl⟩ := pure_cases run₂
      rcases fetchKeys_cases ran with ⟨_, impossible, _⟩ | ⟨records, c₁, _, events, c', _, merge⟩
      · cases impossible
      obtain rfl := merge.alters.unique cached
      exact .fetched [] rfl merge (OrderedMap.nodup_keys c₁.entries) (by simp)
    · obtain ⟨rfl, rfl⟩ := pure_cases run₁
      exact .served [] (.refl s) (by simp)

end IdentityMap.Session
