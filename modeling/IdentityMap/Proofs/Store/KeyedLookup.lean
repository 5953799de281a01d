import IdentityMap.Proofs.Cache.Response
import IdentityMap.Proofs.Session.Refresh
import IdentityMap.Proofs.Store.KeyLists
/-!
# Lookups of keys

A lookup of keys asks for the keys that its policy does not take from the cache, in one query or in
none, and merges the answer. What it then answers with can be read off the merged cache
(`Session.getSome_run`): the instances that are cached under the requested keys now, in first-seen
order. `Store.keyed_lookup` says for every key what is cached under it after the lookup.
-/

namespace IdentityMap

variable {σ τ : Type} [RowStore σ] [TriggerHost τ]

/-! ### Plans -/

namespace IdentityCache

variable {c c' : IdentityCache} {keys : List EntityKey} {policy : CachePolicy} {key : EntityKey}

/-- The keys that a lookup fetches. -/
def wanted (c : IdentityCache) (keys : List EntityKey) : CachePolicy → List EntityKey
  | .cacheOnly => []
  | .cacheFirst => (distinct keys).filter fun key => (c.get? key).isNone
  | .forceRefresh => distinct keys

/-- The instances that are cached under some keys, each once in first-seen order. -/
def shown (c : IdentityCache) (keys : List EntityKey) : List Handle :=
  (distinct keys).filterMap fun key => (c.get? key).map c.handleOf

theorem planLookup_keys (c : IdentityCache) (keys : List EntityKey) (policy : CachePolicy) :
    (c.planLookup keys policy).keys = distinct keys := by cases policy <;> rfl

theorem planLookup_fetch (c : IdentityCache) (keys : List EntityKey) (policy : CachePolicy) :
    (c.planLookup keys policy).fetch = c.wanted keys policy := by
  cases policy with
  | cacheFirst =>
    have once : distinct (distinct keys) = distinct keys := distinct_of_nodup (nodup_distinct keys)
    show (distinct (distinct keys)).filter _ = _
    rw [once]
    refine List.filter_congr fun key _ => ?_
    rw [contains, OrderedMap.contains, Option.not_isSome]
    rfl
  | _ => rfl

/-- A requested key that is cached and not fetched is a hit. -/
theorem mem_hits_of_spared (asked : key ∈ keys) (spared : key ∉ c.wanted keys policy)
    {i : Instance} (found : c.get? key = some i) :
    c.handleOf i ∈ (c.planLookup keys policy).hits := by
  have hit : c.handleOf i ∈ (c.partition (distinct keys)).1 :=
    List.mem_filterMap.2 ⟨key, by simpa using asked, by rw [found]; rfl⟩
  cases policy with
  | cacheOnly => exact hit
  | cacheFirst => exact hit
  | forceRefresh => exact absurd (mem_distinct.2 asked) spared

/-! ### Answers -/

variable {records : List Record} {handles : List Handle} {events : List Event}

/-- Among what was fetched and the hits, a requested key finds the instance that is cached under it
after the merge. -/
theorem find?_answered (sound : c.Sound)
    (merge : c.mergeFetched (c.wanted keys policy) records = .ok ((handles, events), c'))
    (asked : key ∈ keys) :
    (handles ++ (c.planLookup keys policy).hits).find? (·.key = key)
      = (c'.get? key).map c'.handleOf := by
  have merged := mergeFetched_merged sound merge
  cases found : (handles ++ (c.planLookup keys policy).hits).find? (·.key = key) with
  | some h =>
    have own : h.key = key := by simpa using List.find?_some found
    have held : c'.Holds h := by
      rcases List.mem_append.1 (List.mem_of_find?_eq_some found) with brought | hit
      · exact merged.holds h brought
      · obtain ⟨k, i, cached, rfl, spared⟩ := Session.mem_hits hit
        rw [planLookup_fetch] at spared
        obtain ⟨i', cached', same⟩ := mergeFetched_kept sound merge spared cached
        exact same ▸ (sound.steps merged.steps).holds_handleOf cached'
    obtain ⟨i, cached, same⟩ := held
    rw [← own, cached, Option.map_some, same]
  | none =>
    have others : ∀ h ∈ handles ++ (c.planLookup keys policy).hits, h.key ≠ key := by
      simpa using List.find?_eq_none.1 found
    cases cached : c'.get? key with
    | none => rfl
    | some i =>
      exfalso
      cases last : c.entityType.lastWith key records with
      | some r =>
        obtain ⟨h, brought, own⟩ := key_mem_mergeFetched sound merge last
        exact others h (List.mem_append_left _ brought) own
      | none =>
        rw [get?_mergeFetched_missing sound merge last] at cached
        split at cached
        · cases cached
        · rename_i spared
          have hit := mem_hits_of_spared asked spared cached
          exact others _ (List.mem_append_right _ hit) (sound.keyed key i cached).1

/-- A lookup answers with what is cached under its keys after the merge. -/
theorem answerOf_merged (keys : List EntityKey) (policy : CachePolicy) (sound : c.Sound)
    (merge : c.mergeFetched (c.wanted keys policy) records = .ok ((handles, events), c')) :
    Session.answerOf (c.planLookup keys policy) handles = c'.shown keys := by
  unfold Session.answerOf shown
  rw [planLookup_keys]
  exact List.filterMap_congr fun key asked => find?_answered sound merge (mem_distinct.1 asked)

/-- A response is merged just where all of its records carry keys. -/
theorem mergeFetched_ok_iff (c : IdentityCache) (keys : List EntityKey) (records : List Record) :
    (∃ merged, c.mergeFetched keys records = .ok merged) ↔
      ∀ r ∈ records, ∃ key, c.entityType.keyOf? r = some key := by
  unfold mergeFetched putAll
  constructor
  · rintro ⟨merged, merge⟩ r listed
    cases keyed : c.keyed records with
    | error e => simp [keyed, Except.map] at merge
    | ok pairs =>
      obtain ⟨rfl, carried⟩ := keyed_eq_ok keyed
      obtain ⟨p, member, rfl⟩ := List.mem_map.1 listed
      exact ⟨p.1, carried p member⟩
  · intro keys
    obtain ⟨pairs, keyed⟩ := keyed_ok_of_keys keys
    simp [keyed, Except.map]

/-- What a lookup has made of a cache, given the records that it was answered with. -/
structure Answered (c c' : IdentityCache) (keys : List EntityKey) (policy : CachePolicy)
    (records : List Record) : Prop where
  /-- A requested key is cached now if the cache served it, or if its row came back. -/
  served : ∀ key ∈ keys, (∃ i, c'.get? key = some i) ↔
    (policy ≠ .forceRefresh ∧ ∃ i, c.get? key = some i) ∨
      ∃ r ∈ records, c.entityType.keyOf? r = some key
  /-- What came back is cached, and the last row counts. -/
  returned : ∀ key r, c.entityType.lastWith key records = some r →
    ∃ i, c'.get? key = some i ∧ i.record = r
  /-- What was fetched and did not come back is not cached. -/
  gone : ∀ key ∈ c.wanted keys policy, c.entityType.lastWith key records = none →
    c'.get? key = none
  /-- What was not fetched and did not come back has not changed. -/
  spared : ∀ key, key ∉ c.wanted keys policy → c.entityType.lastWith key records = none →
    c'.get? key = c.get? key
  stable : Stable c c'

theorem spared_iff (policy : CachePolicy) (asked : key ∈ keys) {i : Instance}
    (found : c.get? key = some i) :
    key ∉ c.wanted keys policy ↔ policy ≠ .forceRefresh := by
  cases policy <;> simp [wanted, asked, found]

theorem mergeFetched_answered (sound : c.Sound)
    (merge : c.mergeFetched (c.wanted keys policy) records = .ok ((handles, events), c')) :
    Answered c c' keys policy records := by
  refine ⟨fun key asked => ?_, fun key r last => get?_mergeFetched_returned sound merge last,
    fun key fetched missing => ?_, fun key spared missing => ?_,
    (mergeFetched_merged sound merge).stable⟩
  · rw [← EntityType.lastWith_isSome_iff]
    cases last : c.entityType.lastWith key records with
    | some r =>
      obtain ⟨i, found, -⟩ := get?_mergeFetched_returned sound merge last
      simp [found]
    | none =>
      rw [get?_mergeFetched_missing sound merge last]
      cases found : c.get? key with
      | none => simp
      | some i =>
        have spared := spared_iff policy asked found
        by_cases fetched : key ∈ c.wanted keys policy <;> simp_all
  · rw [get?_mergeFetched_missing sound merge missing, if_pos fetched]
  · rw [get?_mergeFetched_missing sound merge missing, if_neg spared]

end IdentityCache

/-! ### Runs -/

/-- Look up the rows with some keys: nothing is sent if there are none, and one query otherwise,
with the keys as its parameters. -/
def Gateway.lookUp (t : EntityType) (keys : List EntityKey) (g : Gateway σ) :
    Except Error (List Record) × Gateway σ :=
  if keys = [] then (.ok [], g)
  else
    let answer := RowStore.query ((KeyList.read keys).call g.dialect ⟨t⟩).statement
      (keys.map EntityKey.toValue) g.rows
    (answer.1.bind (TableMapping.decodeRows ⟨t⟩),
      { g with rows := answer.2, roundTrips := g.roundTrips + 1 })

theorem TableMapping.fetchKeys_lookUp (t : EntityType) (keys : List EntityKey) (g : Gateway σ) :
    fetchKeys ⟨t⟩ keys g = g.lookUp t keys := by
  unfold Gateway.lookUp
  split
  · rename_i none
    rw [none, fetchKeys_nil]
    rfl
  · rename_i some
    exact fetchKeys_eq (selectKeys_some g.dialect some)

namespace Session

variable {s : Session σ} {c : IdentityCache} {typeName : String} {keys : List EntityKey}
  {policy : CachePolicy}

/-- A lookup merges what it asks for, and answers with what is cached under its keys then. -/
theorem getSome_run (sound : s.Sound) (cached : s.caches.get? typeName = some c)
    (keys : List EntityKey) (policy : CachePolicy) :
    let l : Lookup := ⟨typeName, policy, .keys keys⟩
    let asked := s.gateway.lookUp c.entityType (c.wanted keys policy)
    getSome typeName keys policy s =
      match asked.1.bind (c.mergeFetched (c.wanted keys policy)) with
      | .error e => (.error e, { s.counting (l.hits c) (l.misses c) with gateway := asked.2 })
      | .ok ((_, events), c') => (.ok (c'.shown keys), {
          s.counting (l.hits c) (l.misses c) with
          gateway := asked.2
          caches := s.caches.insert typeName c'
          outbox := s.outbox ++ events }) := by
  intro l
  dsimp only
  have named : c.entityType.name = typeName := sound.named _ c cached
  have cacheSound := sound.caches _ c cached
  rw [getSome_eq (sound.resolve_ok cached), IdentityCache.planLookup_fetch]
  rcases asked : s.gateway.lookUp c.entityType (c.wanted keys policy) with ⟨found, g⟩
  split
  · rename_i none
    have nothing : c.mergeFetched [] [] = .ok (([], []), c) := rfl
    have served := IdentityCache.answerOf_merged keys policy cacheSound (none ▸ nothing)
    rw [none] at asked
    cases asked
    simp only [none, Except.bind, nothing, List.append_nil, ← served,
      OrderedMap.insert_of_get? cached]
    rfl
  · have answered : TableMapping.fetchKeys ⟨c.entityType⟩ (c.wanted keys policy) s.gateway
        = (found, g) := (TableMapping.fetchKeys_lookUp ..).trans asked
    have ran := access_changeCache (s := s.counting (l.hits c) (l.misses c)) answered cached
      fun c' records => c'.mergeFetched (c.wanted keys policy) records
    unfold fetchKeys
    rw [named]
    cases merging : found.bind (c.mergeFetched (c.wanted keys policy)) with
    | error e =>
      rw [merging] at ran
      rw [bind_of_error ran]
    | ok result =>
      obtain ⟨⟨handles, events⟩, c'⟩ := result
      rw [merging] at ran
      rw [bind_of_ok ran]
      cases found with
      | error e => cases merging
      | ok records =>
        dsimp only
        rw [IdentityCache.answerOf_merged keys policy cacheSound merging]
        rfl

/-- The calls that a lookup makes, when it succeeds, and what it does then. -/
theorem getSome_looks (sound : s.Sound) (cached : s.caches.get? typeName = some c)
    {o : Except Error (List Handle)} {s' : Session σ}
    (run : getSome typeName keys policy s = (o, s')) :
    let asked := s.gateway.lookUp c.entityType (c.wanted keys policy)
    s'.gateway = asked.2 ∧
    ((∃ handles, o = .ok handles) ↔ ∃ records, asked.1 = .ok records ∧
      ∀ r ∈ records, ∃ key, c.entityType.keyOf? r = some key) ∧
    ∀ handles, o = .ok handles → ∃ records c', asked.1 = .ok records ∧
      s'.caches.get? typeName = some c' ∧ c.Answered c' keys policy records ∧
      handles = c'.shown keys ∧ ∀ n, n ≠ typeName → s'.caches.get? n = s.caches.get? n := by
  intro asked
  have cacheSound := sound.caches _ c cached
  rw [getSome_run sound cached] at run
  rcases looked : asked with ⟨e | records, g⟩
  · rw [show s.gateway.lookUp _ _ = _ from looked] at run
    cases run
    simp
  rw [show s.gateway.lookUp _ _ = _ from looked] at run
  have merges := c.mergeFetched_ok_iff (c.wanted keys policy) records
  cases merging : c.mergeFetched (c.wanted keys policy) records with
  | error e =>
    simp only [Except.bind, merging] at run
    cases run
    refine ⟨rfl, ?_, by simp⟩
    rw [merging] at merges
    simpa using merges
  | ok result =>
    obtain ⟨⟨answered, events⟩, c'⟩ := result
    simp only [Except.bind, merging] at run
    cases run
    refine ⟨rfl, ?_, ?_⟩
    · rw [merging] at merges
      simpa using merges
    · rintro _ ⟨⟩
      refine ⟨records, c', rfl, OrderedMap.get?_insert_self .., ?_, rfl, ?_⟩
      · exact IdentityCache.mergeFetched_answered cacheSound merging
      · exact fun n other => OrderedMap.get?_insert_of_ne _ _ other.symm

end Session

namespace Store

open Session

variable {s : Store σ τ} {typeName : String} {c : IdentityCache}

/-- A lookup of one key is a lookup of several keys, and answers with the first instance. -/
theorem get_eq (s : Store σ τ) (typeName : String) (key : EntityKey) (policy : CachePolicy) :
    s.get typeName key policy = ((s.getSome typeName [key] policy).1.map List.head?,
      (s.getSome typeName [key] policy).2) := by
  unfold Store.get Store.getSome perform Session.get
  rcases ran : Session.getSome typeName [key] policy s.session with ⟨e | found, t⟩
  · rw [bind_of_error ran]
    rfl
  · rw [bind_of_ok ran]
    rfl

/-- A lookup that may not fetch counts the keys that are cached and those that are not, and does
nothing else. -/
theorem ask_cacheOnly (reachable : s.Reachable)
    (cached : s.session.caches.get? typeName = some c) (keys : List EntityKey) :
    s.ask (.getSome typeName keys .cacheOnly) = (.ok (c.shown keys), { s with
      session := s.session.counting ((distinct keys).countP fun key => (c.get? key).isSome)
        ((distinct keys).countP fun key => (c.get? key).isNone) }) := by
  let l : Lookup := ⟨typeName, .cacheOnly, .keys keys⟩
  have hits : l.hits c = (distinct keys).countP fun key => (c.get? key).isSome := rfl
  have misses : l.misses c = (distinct keys).countP fun key => (c.get? key).isNone := by
    have all := List.length_eq_countP_add_countP (fun key => (c.get? key).isSome)
      (l := distinct keys)
    have others : (distinct keys).countP (fun key => decide ¬(c.get? key).isSome = true)
        = (distinct keys).countP fun key => (c.get? key).isNone :=
      List.countP_congr fun key _ => by cases c.get? key <;> simp
    show (distinct keys).length - l.hits c = _
    omega
  have ran : Session.getSome typeName keys .cacheOnly s.session
      = (.ok (c.shown keys), s.session.counting (l.hits c) (l.misses c)) := by
    rw [getSome_run reachable.sound cached]
    simp only [IdentityCache.wanted, Gateway.lookUp, if_true, Except.bind]
    rw [show c.mergeFetched [] [] = .ok (([], []), c) from rfl]
    simp only [List.append_nil, OrderedMap.insert_of_get? cached]
    rfl
  have told : s.session.outbox = [] := reachable.outbox
  rw [← hits, ← misses, ask_eq]
  simp only [dispatched, Request.run, ran, counting, told, List.foldl_nil]

/-- A lookup of keys sends one query for the keys that it wants, or nothing if there are none. It
succeeds just where the answer can be read and every record of it has a key. Then it has merged the
answer into the cache of the type and nothing else, and answers with what is cached under its keys
now, each once in first-seen order. Without leave to fetch it does nothing but count. -/
theorem keyed_lookup (reachable : s.Reachable) (cached : s.session.caches.get? typeName = some c)
    (keys : List EntityKey) (policy : CachePolicy) :
    let asked := s.session.gateway.lookUp c.entityType (c.wanted keys policy)
    let answer := s.ask (.getSome typeName keys policy)
    answer.2.session.gateway = asked.2 ∧
    ((∃ handles, answer.1 = .ok handles) ↔ ∃ records, asked.1 = .ok records ∧
      ∀ r ∈ records, ∃ key, c.entityType.keyOf? r = some key) ∧
    (∀ handles, answer.1 = .ok handles → ∃ records c', asked.1 = .ok records ∧
      answer.2.session.caches.get? typeName = some c' ∧ c.Answered c' keys policy records ∧
      handles = c'.shown keys ∧
      ∀ n, n ≠ typeName → answer.2.session.caches.get? n = s.session.caches.get? n) ∧
    (policy = .cacheOnly → answer = (.ok (c.shown keys), { s with
      session := s.session.counting ((distinct keys).countP fun key => (c.get? key).isSome)
        ((distinct keys).countP fun key => (c.get? key).isNone) })) ∧
    ∀ key, s.get typeName key policy = ((s.getSome typeName [key] policy).1.map List.head?,
      (s.getSome typeName [key] policy).2) := by
  intro asked answer
  obtain ⟨o, u, ran, outcome, after, -⟩ := ask_cases (.getSome typeName keys policy) s
  obtain ⟨gateway, succeeds, answered⟩ := getSome_looks reachable.sound cached ran
  rw [outcome, after]
  refine ⟨gateway, succeeds, answered, ?_, fun key => get_eq s typeName key policy⟩
  rintro rfl
  exact ask_cacheOnly reachable cached keys

end Store

/-! ### Gauges that are looked up -/

namespace Sample

/-- Two gauges are cached. The next answer brings a gauge twice, and one that nobody asks for. -/
def twoCached : Store Script ScriptedHost :=
  (opened [.rows [row 1 5, row 2 6], .rows [row 3 7, row 4 8, row 3 9]]).after [
    .request (.register gauge), .request (.getSome "Gauge" [.int 1, .int 2] .forceRefresh)]

theorem reachable_twoCached : twoCached.Reachable := reachable_after _ _

end Sample

open Sample in
/-- The gauges 3 and 5 are fetched, each once. The last row of the first one counts, the second one
does not come back, and the instance of a cached one stays as it is. -/
theorem Store.keyed_lookup_gauges :
    let keys : List EntityKey := [.int 2, .int 3, .int 2, .int 5, .int 1, .int 3]
    let answer := twoCached.ask (.getSome "Gauge" keys .cacheFirst)
    ∃ c c', twoCached.session.caches.get? "Gauge" = some c ∧
      answer.2.session.caches.get? "Gauge" = some c' ∧
      c.wanted keys .cacheFirst = [.int 3, .int 5] ∧
      answer.1 = .ok [⟨"Gauge", .int 2, 1⟩, ⟨"Gauge", .int 3, 2⟩, ⟨"Gauge", .int 1, 0⟩] ∧
      (∃ i, c'.get? (.int 3) = some i ∧ i.record = level 3 9) ∧
      c'.get? (.int 5) = none ∧ c'.get? (.int 1) = c.get? (.int 1) := by
  intro keys answer
  have seen : (twoCached.session.caches.get? "Gauge").map
      (fun c => (c.entityType, c.wanted keys .cacheFirst)) = some (gauge, [.int 3, .int 5]) := by
    decide +kernel
  obtain ⟨c, cached, same⟩ := Option.map_eq_some_iff.1 seen
  obtain ⟨type, wanted⟩ := Prod.mk.inj same
  have response : (twoCached.session.gateway.lookUp gauge [.int 3, .int 5]).1
      = .ok [level 3 7, level 4 8, level 3 9] := by decide +kernel
  have done : answer.1
      = .ok [⟨"Gauge", .int 2, 1⟩, ⟨"Gauge", .int 3, 2⟩, ⟨"Gauge", .int 1, 0⟩] := by
    decide +kernel
  obtain ⟨-, -, succeeds, -⟩ := Store.keyed_lookup reachable_twoCached cached keys .cacheFirst
  obtain ⟨records, c', asked, after, answered, -⟩ := succeeds _ done
  rw [wanted, type, response] at asked
  cases asked
  refine ⟨c, c', cached, after, wanted, done, ?_, ?_, ?_⟩
  · exact answered.returned (.int 3) _ (by rw [type]; decide +kernel)
  · exact answered.gone (.int 5) (by simp [wanted]) (by rw [type]; decide +kernel)
  · exact answered.spared (.int 1) (by simp [wanted]) (by rw [type]; decide +kernel)

end IdentityMap
