import IdentityMap.Proofs.Sends
import IdentityMap.Proofs.Session.Request
/-!
# The course of requests

`Session.Course` is how a session gets from one state to another: calls to the row store, each of
them counted, changes of caches, tables and the outbox, and keys taken from sequences. No lookup is
counted on the way. Every piece of work takes such a course (`Session.Uncounted`), apart from
lookups: these count what they find in the cache first, and then take one (`Request.lookup_course`).
-/

namespace IdentityMap

namespace Session

variable {σ α β : Type} [RowStore σ] {s t s' : Session σ} {m : TableMapping}

/-! ### Taking keys -/

/-- A sequence that has started goes on after the last key that it handed out. -/
theorem lastKey_of_some {last : Int64} (noted : s.sequences.get? m.entityType.name = some last) :
    lastKey m s = (.ok last, s) := by
  unfold lastKey
  rw [Work.get_bind, noted]
  rfl

/-- Without a last key the row store is asked for the largest one. -/
theorem lastKey_of_none (unseeded : s.sequences.get? m.entityType.name = none) :
    lastKey m s = (do
      let largest ← Work.access m.largestKey
      return largest.getD 0 : Work σ Int64) s := by
  unfold lastKey
  rw [Work.get_bind, unseeded]

/-- What the row store answers tells after which key the sequence starts. -/
theorem lastKey_asked {o : Except Error (Option Int64)} {g : Gateway σ}
    (unseeded : s.sequences.get? m.entityType.name = none)
    (asked : m.largestKey s.gateway = (o, g)) :
    lastKey m s = (o.map fun largest => largest.getD 0, { s with gateway := g }) := by
  rw [lastKey_of_none unseeded]
  cases o with
  | error e => exact bind_of_error (Work.access_eq asked)
  | ok largest =>
    rw [bind_of_ok (Work.access_eq asked)]
    rfl

/-- Once it is known after which key a sequence goes on, keys are there for the taking. -/
theorem allocateKeys_of_lastKey {last : Int64} (found : lastKey m s = (.ok last, t)) (count : Nat) :
    allocateKeys m count s = (.ok (last + 1), { t with
      sequences := t.sequences.insert m.entityType.name (last + Int64.ofNat count) }) := by
  unfold allocateKeys
  rw [bind_of_ok found]
  rfl

/-! ### Courses -/

/-- How a session gets from one state to another if no lookup is counted. -/
inductive Course : Session σ → Session σ → Prop
  | refl (s : Session σ) : Course s s
  /-- Calls that do not ask for a largest key. -/
  | calls {s s' : Session σ} {g : Gateway σ} (calls : s.gateway.Calls Sql.Command.NotMaxKey g)
    (rest : Course { s with gateway := g } s') : Course s s'
  /-- Anything that leaves the row store, the sequences and the counters alone. -/
  | aside {s t s' : Session σ} (gateway : t.gateway = s.gateway)
    (sequences : t.sequences = s.sequences) (hits : t.hits = s.hits) (misses : t.misses = s.misses)
    (rest : Course t s') : Course s s'
  | take {s s' : Session σ} (m : TableMapping) (count : Nat)
    (rest : Course (allocateKeys m count s).2 s') : Course s s'

theorem Course.of_aside (gateway : s'.gateway = s.gateway) (sequences : s'.sequences = s.sequences)
    (hits : s'.hits = s.hits) (misses : s'.misses = s.misses) : Course s s' :=
  .aside gateway sequences hits misses (.refl s')

theorem Course.trans (first : Course s t) (later : Course t s') : Course s s' := by
  induction first with
  | refl _ => exact later
  | calls calls _ ih => exact .calls calls (ih later)
  | aside gateway sequences hits misses _ ih =>
    exact .aside gateway sequences hits misses (ih later)
  | take m count _ ih => exact .take m count (ih later)

/-- Taking keys counts the call that it may make, and no lookup. -/
theorem allocateKeys_counts (m : TableMapping) (count : Nat) (s : Session σ) :
    s.gateway.Calls (fun _ => True) (allocateKeys m count s).2.gateway ∧
      (allocateKeys m count s).2.hits = s.hits ∧ (allocateKeys m count s).2.misses = s.misses := by
  cases noted : s.sequences.get? m.entityType.name with
  | some last =>
    rw [allocateKeys_of_lastKey (lastKey_of_some noted)]
    exact ⟨.refl _, rfl, rfl⟩
  | none =>
    have calls := (TableMapping.largestKey_calls (m := m) s.gateway).mono fun _ _ => trivial
    rcases asked : m.largestKey s.gateway with ⟨e | largest, g⟩
    · rw [asked] at calls
      unfold allocateKeys
      rw [bind_of_error (lastKey_asked noted asked)]
      exact ⟨calls, rfl, rfl⟩
    · rw [asked] at calls
      rw [allocateKeys_of_lastKey (lastKey_asked noted asked)]
      exact ⟨calls, rfl, rfl⟩

/-- On its course a session counts every call, and no lookup. -/
theorem Course.counts (course : Course s s') :
    s.gateway.Calls (fun _ => True) s'.gateway ∧ s'.hits = s.hits ∧ s'.misses = s.misses := by
  induction course with
  | refl s => exact ⟨.refl _, rfl, rfl⟩
  | calls calls _ ih =>
    obtain ⟨later, hits, misses⟩ := ih
    exact ⟨(calls.mono fun _ _ => trivial).trans later, hits, misses⟩
  | aside gateway _ hits misses _ ih =>
    rw [gateway, hits, misses] at ih
    exact ih
  | @take s s' m count _ ih =>
    obtain ⟨calls, hits, misses⟩ := allocateKeys_counts m count s
    rw [hits, misses] at ih
    exact ⟨calls.trans ih.1, ih.2⟩

/-- However the work runs, it takes a course. -/
def Uncounted (w : Work σ α) : Prop := ∀ s, Course s (w s).2

namespace Uncounted

theorem pure (a : α) : Uncounted (Pure.pure a : Work σ α) := .refl

theorem throw (e : Error) : Uncounted (MonadExcept.throw e : Work σ α) := .refl

theorem current : Uncounted (MonadState.get : Work σ (Session σ)) := .refl

theorem ofExcept (outcome : Except Error α) : Uncounted (Work.ofExcept outcome : Work σ α) := .refl

theorem bind {w : Work σ α} {f : α → Work σ β} (first : Uncounted w)
    (next : ∀ a, Uncounted (f a)) : Uncounted (w >>= f) := by
  intro s
  have course := first s
  rcases ran : w s with ⟨e | a, t⟩
  · rw [bind_of_error ran]
    rw [ran] at course
    exact course
  · rw [bind_of_ok ran]
    rw [ran] at course
    exact course.trans (next a t)

theorem access {a : Access σ α} (calls : Access.Calls Sql.Command.NotMaxKey a) :
    Uncounted (Work.access a) := fun s => .calls (calls s.gateway) (.refl _)

theorem resolve (typeName : String) : Uncounted (Work.resolve typeName : Work σ _) := by
  intro s
  rcases ran : (Work.resolve typeName : Work σ _) s with ⟨o, t⟩
  obtain ⟨rfl, _⟩ := Work.resolve_cases ran
  exact .refl s

theorem changeCache (typeName : String)
    (change : IdentityCache → Except Error ((α × List Event) × IdentityCache)) :
    Uncounted (Work.changeCache typeName change : Work σ α) := by
  intro s
  unfold Work.changeCache
  split
  · exact .refl s
  · exact .of_aside rfl rfl rfl rfl

theorem allocateKeys (m : TableMapping) (count : Nat) :
    Uncounted (Session.allocateKeys m count : Work σ Int64) :=
  fun _ => .take m count (.refl _)

/-! #### Looking up and deleting -/

theorem fetchKeys (m : TableMapping) (keys : List EntityKey) :
    Uncounted (Session.fetchKeys m keys : Work σ _) :=
  (access (TableMapping.fetchKeys_calls keys)).bind fun _ => changeCache _ _

theorem reload (m : TableMapping) : Uncounted (Session.reload m : Work σ _) :=
  (access TableMapping.fetchAll_calls).bind fun _ => changeCache _ _

theorem refreshType (typeName : String) :
    Uncounted (Session.refreshType typeName : Work σ _) := by
  refine (resolve typeName).bind fun found => ?_
  dsimp only
  split
  · exact (reload _).bind fun _ => .pure ()
  · split
    · exact (fetchKeys _ _).bind fun _ => .pure ()
    · exact .pure ()

theorem deleteKeys (observed : Bool) (typeName : String) (keys : List EntityKey) :
    Uncounted (Session.deleteKeys observed typeName keys : Work σ _) := by
  refine (resolve typeName).bind fun found => ?_
  have deletes (m : TableMapping) (keys : List EntityKey)
      (change : IdentityCache → Except Error ((Unit × List Event) × IdentityCache)) :
      Uncounted (do
        let deleted ← Work.access (m.deleteRows keys)
        Work.changeCache typeName change
        return deleted : Work σ Nat) :=
    (access (TableMapping.deleteRows_calls keys)).bind fun _ => (changeCache _ _).bind fun _ =>
      .pure _
  dsimp only
  split
  · exact .pure 0
  · split
    · exact (access (TableMapping.fetchKeys_calls _)).bind fun _ => deletes _ _ _
    · exact (Uncounted.pure []).bind fun _ => deletes _ _ _

theorem deleteAll (typeName : String) : Uncounted (Session.deleteAll typeName : Work σ _) :=
  (resolve typeName).bind fun _ => (access TableMapping.deleteAllRows_calls).bind fun _ =>
    (changeCache _ _).bind fun _ => .pure _

theorem enroll (t : EntityType) : Uncounted (Session.enroll t : Work σ _) := by
  intro s
  unfold Session.enroll
  split
  · exact .refl s
  · exact .refl s
  · exact .of_aside rfl rfl rfl rfl

theorem register (t : EntityType) : Uncounted (Session.register t : Work σ _) := by
  refine current.bind fun now => ?_
  have created : Uncounted (do
      if now.settings.createTables then Work.access (TableMapping.createSchema ⟨t⟩)
      Session.enroll t : Work σ Unit) := by
    dsimp only
    split
    · exact (access TableMapping.createSchema_calls).bind fun _ => enroll t
    · exact enroll t
  dsimp only
  split
  · exact (throw _).bind fun _ => created
  · exact created

/-! #### Persisting -/

theorem newRecord (m : TableMapping) (values : Record) :
    Uncounted (Session.newRecord m values : Work σ _) := by
  unfold Session.newRecord
  dsimp only
  split
  · exact (ofExcept _).bind fun _ => (ofExcept _).bind fun _ => .pure _
  · exact (ofExcept _).bind fun _ => (ofExcept _).bind fun _ => .pure _
  · exact (ofExcept _).bind fun _ => (allocateKeys m 1).bind fun _ =>
      (ofExcept _).bind fun _ => .pure _

theorem create (m : TableMapping) (values : Record) :
    Uncounted (Session.create m values : Work σ _) :=
  (newRecord m values).bind fun _ => (access (TableMapping.insertRow_calls _)).bind fun _ =>
    changeCache _ _

theorem createEach (m : TableMapping) (values : List Record) :
    Uncounted (Session.createEach m values : Work σ _) := by
  induction values with
  | nil => exact .pure []
  | cons r rest ih => exact (create m r).bind fun _ => ih.bind fun _ => .pure _

theorem insertTogether (m : TableMapping) (records : List Record) :
    Uncounted (Session.insertTogether m records : Work σ _) :=
  current.bind fun _ => (ofExcept _).bind fun _ =>
    (access (TableMapping.insertRows_calls _ _)).bind fun _ => changeCache _ _

theorem createBatch (typeName : String) (values : List Record) :
    Uncounted (Session.createBatch typeName values : Work σ _) := by
  refine (resolve typeName).bind fun found => ?_
  dsimp only
  split
  · exact (ofExcept _).bind fun _ => insertTogether _ _
  · exact (ofExcept _).bind fun _ => (allocateKeys _ _).bind fun _ => insertTogether _ _
  · exact createEach _ _

theorem createBatches (groups : List (String × List (Draft × Nat))) :
    Uncounted (Session.createBatches groups : Work σ _) := by
  induction groups with
  | nil => exact .pure []
  | cons group rest ih => exact (createBatch _ _).bind fun _ => ih.bind fun _ => .pure _

theorem baseRecord (c : IdentityCache) (m : TableMapping) (key : EntityKey) :
    Uncounted (Session.baseRecord c m key : Work σ _) := by
  unfold Session.baseRecord
  split
  · exact .pure _
  · refine (access (TableMapping.fetchKeys_calls _)).bind fun records => ?_
    split
    · exact .pure _
    · exact throw _

theorem modify (c : IdentityCache) (m : TableMapping) (key : EntityKey) (values : Record) :
    Uncounted (Session.modify c m key values : Work σ _) := by
  unfold Session.modify
  dsimp only
  split
  on_goal 1 => split
  on_goal 1 => refine (throw _).bind fun _ => ?_
  -- what is left is the same work in all three cases
  all_goals
    refine (baseRecord c m key).bind fun base => (ofExcept _).bind fun _ => ?_
    refine (access (TableMapping.updateRow_calls _)).bind fun met => ?_
    split
    · refine (access (TableMapping.rowExists_calls key)).bind fun present => ?_
      split
      · exact (changeCache _ _).bind fun _ => (throw _).bind fun _ => changeCache _ _
      · exact changeCache _ _
    · exact changeCache _ _

theorem persist (d : Draft) : Uncounted (Session.persist d : Work σ _) := by
  refine (resolve _).bind fun found => ?_
  dsimp only
  split
  · exact create _ _
  · exact modify _ _ _ _

theorem persistEach (drafts : List (Draft × Nat)) :
    Uncounted (Session.persistEach drafts : Work σ _) := by
  induction drafts with
  | nil => exact .pure []
  | cons d rest ih => exact (persist d.1).bind fun _ => ih.bind fun _ => .pure _

theorem persistAll (drafts : List Draft) : Uncounted (Session.persistAll drafts : Work σ _) :=
  (createBatches _).bind fun _ => (persistEach _).bind fun _ => .pure _

end Uncounted

end Session

/-! ### Lookups -/

/-- What a lookup asks for. -/
inductive Sought
  | keys (keys : List EntityKey)
  | table

structure Lookup where
  typeName : String
  policy : CachePolicy
  sought : Sought

namespace Lookup

/-- How many instances it asks for: one for each key, and a whole table at once. -/
def size (l : Lookup) : Nat :=
  match l.sought with
  | .keys keys => (distinct keys).length
  | .table => 1

/-- How many of these the cache serves. -/
def cached (l : Lookup) (c : IdentityCache) : Nat :=
  match l.sought with
  | .keys keys => (distinct keys).countP c.contains
  | .table => if l.policy = .cacheOnly ∨ c.synced = true then 1 else 0

/-- How many lookups it counts as. Lookups that refresh do not count. -/
def counted (l : Lookup) : Nat := if l.policy = .forceRefresh then 0 else l.size

/-- How many of these are hits. -/
def hits (l : Lookup) (c : IdentityCache) : Nat :=
  if l.policy = .forceRefresh then 0 else l.cached c

def misses (l : Lookup) (c : IdentityCache) : Nat :=
  if l.policy = .forceRefresh then 0 else l.size - l.cached c

theorem cached_le_size (l : Lookup) (c : IdentityCache) : l.cached c ≤ l.size := by
  unfold cached size
  split
  · exact List.countP_le_length
  · split <;> decide

theorem hits_add_misses (l : Lookup) (c : IdentityCache) : l.hits c + l.misses c = l.counted := by
  have fewer := l.cached_le_size c
  unfold hits misses counted
  split <;> omega

end Lookup

/-- The lookup that a request makes, if it makes one. -/
def Request.lookup? : Request → Option Lookup
  | get typeName key policy => some ⟨typeName, policy, .keys [key]⟩
  | getSome typeName keys policy => some ⟨typeName, policy, .keys keys⟩
  | refreshKeys typeName keys => some ⟨typeName, .forceRefresh, .keys keys⟩
  | getAll typeName policy | getSize typeName policy => some ⟨typeName, policy, .table⟩
  | register _ | persist _ | persistAll _ | deleteKeys _ _ | deleteAll _ | refreshType _ => none

namespace Session

variable {σ : Type} [RowStore σ] {s : Session σ} {c : IdentityCache} {m : TableMapping}
  {typeName : String} {policy : CachePolicy}

/-- The session with some more lookups counted. -/
def counting (hits misses : Nat) (s : Session σ) : Session σ :=
  { s with hits := s.hits + hits, misses := s.misses + misses }

omit [RowStore σ] in
/-- The plan of a lookup has each key once, among the hits if it is cached. -/
theorem length_planLookup (typeName : String) (c : IdentityCache) (keys : List EntityKey)
    (trusting : policy ≠ .forceRefresh) :
    (c.planLookup keys policy).hits.length = (Lookup.mk typeName policy (.keys keys)).hits c ∧
    (c.planLookup keys policy).fetch.length + (c.planLookup keys policy).absent
      = (Lookup.mk typeName policy (.keys keys)).misses c := by
  have once : distinct (distinct keys) = distinct keys := distinct_of_nodup (nodup_distinct keys)
  have found (key : EntityKey) :
      ((c.get? key).map c.handleOf).isSome = c.contains key := by
    simp [IdentityCache.get?, IdentityCache.contains, OrderedMap.contains]
  have hits : (c.partition (distinct keys)).1.length = (distinct keys).countP c.contains := by
    simp [IdentityCache.partition, once, List.length_filterMap_eq_countP, found]
  have misses : (c.partition (distinct keys)).2.length
      = (distinct keys).length - (distinct keys).countP c.contains := by
    have all := List.length_eq_countP_add_countP c.contains (l := distinct keys)
    have others : (c.partition (distinct keys)).2.length
        = (distinct keys).countP fun key => decide ¬c.contains key = true := by
      simp [IdentityCache.partition, once, List.countP_eq_length_filter]
    omega
  cases policy with
  | cacheOnly => simpa [IdentityCache.planLookup, Lookup.hits, Lookup.misses, Lookup.cached,
      Lookup.size] using And.intro hits misses
  | cacheFirst => simpa [IdentityCache.planLookup, Lookup.hits, Lookup.misses, Lookup.cached,
      Lookup.size] using And.intro hits misses
  | forceRefresh => exact absurd rfl trusting

/-- A lookup of keys counts first, and then follows its plan. -/
theorem getSome_eq (resolved : (Work.resolve typeName : Work σ _) s = (.ok (c, m), s))
    (keys : List EntityKey) (policy : CachePolicy) :
    let l : Lookup := ⟨typeName, policy, .keys keys⟩
    let plan := c.planLookup keys policy
    getSome typeName keys policy s = (do
      let fetched ← if plan.fetch = [] then pure [] else fetchKeys m plan.fetch
      return answerOf plan fetched : Work σ _) (s.counting (l.hits c) (l.misses c)) := by
  intro l plan
  unfold getSome
  rw [bind_of_ok resolved]
  dsimp only
  split
  · rename_i trusting
    obtain ⟨hits, misses⟩ := length_planLookup typeName c keys trusting
    rw [hits, misses]
    rfl
  · rename_i refreshing
    have refreshing : policy = .forceRefresh := not_not.1 refreshing
    have nothing : s.counting (l.hits c) (l.misses c) = s := by
      simp [counting, Lookup.hits, Lookup.misses, l, refreshing]
    rw [nothing]
    rfl

theorem getSome_course {keys : List EntityKey}
    (resolved : (Work.resolve typeName : Work σ _) s = (.ok (c, m), s)) :
    let l : Lookup := ⟨typeName, policy, .keys keys⟩
    Course (s.counting (l.hits c) (l.misses c)) (getSome typeName keys policy s).2 := by
  intro l
  have fetched : Uncounted (do
      let fetched ← if (c.planLookup keys policy).fetch = [] then pure []
        else fetchKeys m (c.planLookup keys policy).fetch
      return answerOf (c.planLookup keys policy) fetched : Work σ _) := by
    split
    · exact (Uncounted.pure []).bind fun _ => .pure _
    · exact (Uncounted.fetchKeys _ _).bind fun _ => .pure _
  rw [getSome_eq resolved]
  exact fetched _

omit [RowStore σ] in
theorem changeCache_gateway {α : Type} (typeName : String)
    (change : IdentityCache → Except Error ((α × List Event) × IdentityCache)) (s : Session σ) :
    (Work.changeCache typeName change s).2.gateway = s.gateway := by
  unfold Work.changeCache
  split <;> rfl

theorem get_session (typeName : String) (key : EntityKey) (policy : CachePolicy) (s : Session σ) :
    (get typeName key policy s).2 = (getSome typeName [key] policy s).2 := by
  unfold get
  rcases ran : getSome typeName [key] policy s with ⟨e | found, t⟩
  · rw [bind_of_error ran]
  · rw [bind_of_ok ran]
    rfl

/-- Loading a table is one call, whatever comes of it. -/
theorem reload_roundTrips (m : TableMapping) (s : Session σ) :
    (reload m s).2.gateway.roundTrips = s.gateway.roundTrips + 1 := by
  have asked : (m.fetchAll s.gateway).2.roundTrips = s.gateway.roundTrips + 1 := by
    rw [TableMapping.fetchAll_eq]
  rcases ran : m.fetchAll s.gateway with ⟨e | records, g⟩
  · rw [ran] at asked
    unfold reload
    rw [bind_of_error (Work.access_eq ran)]
    exact asked
  · rw [ran] at asked
    unfold reload
    rw [bind_of_ok (Work.access_eq ran), changeCache_gateway]
    exact asked

omit [RowStore σ] in
/-- How a lookup of a whole table is planned: from the cache, or from the row store because the
cache is not synced, or from the row store whatever is cached. -/
theorem planTable_cases (typeName : String) (policy : CachePolicy) (c : IdentityCache) :
    let l : Lookup := ⟨typeName, policy, .table⟩
    (c.planTable policy = .cache ∧ l.cached c = 1 ∧ l.hits c = 1 ∧ l.misses c = 0) ∨
    (c.planTable policy = .rowStore ∧ policy = .cacheFirst ∧
      l.cached c = 0 ∧ l.hits c = 0 ∧ l.misses c = 1) ∨
    (c.planTable policy = .rowStore ∧ policy = .forceRefresh ∧ l.hits c = 0 ∧ l.misses c = 0) := by
  cases policy with
  | cacheOnly => exact .inl ⟨rfl, rfl, rfl, rfl⟩
  | cacheFirst =>
    cases synced : c.synced with
    | true =>
      simp [IdentityCache.planTable, Lookup.cached, Lookup.hits, Lookup.misses, Lookup.size, synced]
    | false =>
      simp [IdentityCache.planTable, Lookup.cached, Lookup.hits, Lookup.misses, Lookup.size, synced]
  | forceRefresh => exact .inr (.inr ⟨rfl, rfl, rfl, rfl⟩)

theorem getAll_course (resolved : (Work.resolve typeName : Work σ _) s = (.ok (c, m), s)) :
    let l : Lookup := ⟨typeName, policy, .table⟩
    Course (s.counting (l.hits c) (l.misses c)) (getAll typeName policy s).2 := by
  intro l
  unfold getAll
  rw [bind_of_ok resolved]
  rcases planTable_cases typeName policy c with ⟨plan, -, hits, misses⟩ |
    ⟨plan, rfl, -, hits, misses⟩ | ⟨plan, rfl, hits, misses⟩
  · simp only [plan, hits, misses, l]
    exact .refl _
  · simp only [plan, hits, misses, l]
    exact Uncounted.reload m (s.counting 0 1)
  · simp only [plan, hits, misses, l]
    exact Uncounted.reload m s

theorem getSize_course (resolved : (Work.resolve typeName : Work σ _) s = (.ok (c, m), s)) :
    let l : Lookup := ⟨typeName, policy, .table⟩
    Course (s.counting (l.hits c) (l.misses c)) (getSize typeName policy s).2 := by
  intro l
  unfold getSize
  rw [bind_of_ok resolved]
  rcases planTable_cases typeName policy c with ⟨plan, -, hits, misses⟩ |
    ⟨plan, rfl, -, hits, misses⟩ | ⟨plan, rfl, hits, misses⟩
  · simp only [plan, hits, misses, l]
    exact .refl _
  · simp only [plan, hits, misses, l]
    exact Uncounted.access TableMapping.countRows_calls (s.counting 0 1)
  · simp only [plan, hits, misses, l]
    exact ((Uncounted.reload m).bind fun _ => .pure _) s

end Session

namespace Request

variable {σ : Type} [RowStore σ] {s : Session σ} {r : Request} {l : Lookup}

open Session

/-- A lookup of a type that is there counts what the cache serves and what it does not, and then it
takes its course. -/
theorem lookup_course {c : IdentityCache} {m : TableMapping} (looks : r.lookup? = some l)
    (resolved : (Work.resolve l.typeName : Work σ _) s = (.ok (c, m), s))
    (observed : String → Bool) :
    Course (s.counting (l.hits c) (l.misses c)) (r.run observed s).2 := by
  cases r <;> cases looks
  case get typeName key policy =>
    have course : Course _ (Session.getSome typeName [key] policy s).2 := getSome_course resolved
    rw [← get_session] at course
    exact course
  case getSome => exact getSome_course resolved
  case getAll => exact getAll_course resolved
  case getSize => exact getSize_course resolved
  case refreshKeys => exact getSome_course resolved

/-- A lookup of a whole table makes one call, unless the cache serves it. -/
theorem lookup_roundTrips {c : IdentityCache} {m : TableMapping} (looks : r.lookup? = some l)
    (resolved : (Work.resolve l.typeName : Work σ _) s = (.ok (c, m), s))
    (table : l.sought = .table) (trusting : l.policy ≠ .forceRefresh)
    (observed : String → Bool) :
    (r.run observed s).2.gateway.roundTrips = s.gateway.roundTrips + (1 - l.cached c) := by
  cases r <;> cases looks <;> cases table
  case getAll typeName policy =>
    show (Session.getAll typeName policy s).2.gateway.roundTrips = _
    unfold Session.getAll
    rw [bind_of_ok resolved]
    rcases planTable_cases typeName policy c with ⟨plan, served, -⟩ | ⟨plan, rfl, missed, -⟩ |
      ⟨-, refreshing, -⟩
    · simp only [plan, served]
      rfl
    · simp only [plan, missed]
      exact reload_roundTrips m (s.counting 0 1)
    · exact absurd refreshing trusting
  case getSize typeName policy =>
    show (Session.getSize typeName policy s).2.gateway.roundTrips = _
    unfold Session.getSize
    rw [bind_of_ok resolved]
    rcases planTable_cases typeName policy c with ⟨plan, served, -⟩ | ⟨plan, rfl, missed, -⟩ |
      ⟨-, refreshing, -⟩
    · simp only [plan, served]
      rfl
    · simp only [plan, missed]
      exact congrArg (·.2.roundTrips) (TableMapping.countRows_eq (s.counting 0 1).gateway)
    · exact absurd refreshing trusting

/-- A lookup that may not fetch leaves the row store alone. -/
theorem cacheOnly_gateway {c : IdentityCache} {m : TableMapping} (looks : r.lookup? = some l)
    (resolved : (Work.resolve l.typeName : Work σ _) s = (.ok (c, m), s))
    (only : l.policy = .cacheOnly) (observed : String → Bool) :
    (r.run observed s).2.gateway = s.gateway := by
  have keyed (typeName : String) (keys : List EntityKey)
      (resolved : (Work.resolve typeName : Work σ _) s = (.ok (c, m), s)) :
      (Session.getSome typeName keys .cacheOnly s).2.gateway = s.gateway := by
    unfold Session.getSome
    rw [bind_of_ok resolved]
    rfl
  cases r <;> cases looks <;> cases only
  case get typeName key =>
    have same := keyed typeName [key] resolved
    rw [← get_session] at same
    exact same
  case getSome typeName keys => exact keyed typeName keys resolved
  case getAll typeName =>
    show (Session.getAll typeName .cacheOnly s).2.gateway = _
    unfold Session.getAll
    rw [bind_of_ok resolved]
    rfl
  case getSize typeName =>
    show (Session.getSize typeName .cacheOnly s).2.gateway = _
    unfold Session.getSize
    rw [bind_of_ok resolved]
    rfl

/-- A lookup of another type does nothing. -/
theorem lookup_unresolved {e : Error} (looks : r.lookup? = some l)
    (failed : (Work.resolve l.typeName : Work σ _) s = (.error e, s)) (observed : String → Bool) :
    (r.run observed s).2 = s := by
  cases r <;> cases looks
  case get typeName key policy =>
    have ran : Session.getSome typeName [key] policy s = (.error e, s) := bind_of_error failed
    exact (get_session typeName key policy s).trans (congrArg Prod.snd ran)
  case getSize typeName policy =>
    have ran : Session.getSize typeName policy s = (.error e, s) := bind_of_error failed
    exact congrArg Prod.snd ran
  case getSome => exact congrArg Prod.snd (bind_of_error failed)
  case getAll => exact congrArg Prod.snd (bind_of_error failed)
  case refreshKeys => exact congrArg Prod.snd (bind_of_error failed)

/-- Any other request counts nothing. -/
theorem course (other : r.lookup? = none) (observed : String → Bool) :
    Course s (r.run observed s).2 := by
  cases r <;> cases other
  case register t => exact Uncounted.register t s
  case persist d => exact Uncounted.persist d s
  case persistAll drafts => exact Uncounted.persistAll drafts s
  case deleteKeys typeName keys => exact Uncounted.deleteKeys (observed typeName) typeName keys s
  case deleteAll typeName => exact Uncounted.deleteAll typeName s
  case refreshType typeName => exact Uncounted.refreshType typeName s

end Request

end IdentityMap
