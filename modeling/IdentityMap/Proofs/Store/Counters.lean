import IdentityMap.Proofs.Session.Course
import IdentityMap.Proofs.Store.Operation
/-!
# What the counters of a store tell

A row store that logs its calls (`Logged`) shows what the counters of a store should say. Over every
run, whatever the row store answers and wherever it fails, the round trips are the calls in the log;
each lookup of a registered type that trusts the cache is counted, once for every key or once for a
whole table, and as a hit just where the cache served it (`Store.counters_over_runs`).
-/

namespace IdentityMap

/-- A row store with a log of the calls to it. -/
structure Logged (σ : Type) where
  rows : σ
  calls : List Call := []

namespace Logged

variable {σ α : Type} [RowStore σ]

/-- Pass a call on and note it, whatever comes of it. -/
def pass (call : Call) (f : σ → Except Error α × σ) (l : Logged σ) : Except Error α × Logged σ :=
  ((f l.rows).1, ⟨(f l.rows).2, l.calls ++ [call]⟩)

instance : RowStore (Logged σ) where
  query s params := pass ⟨.query, s, [params]⟩ (RowStore.query s params)
  execute s params := pass ⟨.execute, s, [params]⟩ (RowStore.execute s params)
  executeBatch s paramSets := pass ⟨.executeBatch, s, paramSets⟩ (RowStore.executeBatch s paramSets)
  insertReturningKey s params :=
    pass ⟨.insertReturningKey, s, [params]⟩ (RowStore.insertReturningKey s params)

theorem calls_runs {s : Sql.Statement} {l next : Logged σ} (ran : RowStore.Runs s l next) :
    next.calls.length = l.calls.length + 1 := by
  cases ran <;> exact List.length_append

end Logged

/-! ### Round trips -/

/-- The gateway has counted the calls that its row store has logged. -/
def Gateway.Counted {σ : Type} (g : Gateway (Logged σ)) : Prop :=
  g.roundTrips = g.rows.calls.length

section Counted

variable {σ : Type} [RowStore σ]

theorem Gateway.Calls.counted {P : Sql.Command → Prop} {g g' : Gateway (Logged σ)}
    (calls : g.Calls P g') (counted : g.Counted) : g'.Counted := by
  induction calls with
  | refl _ => exact counted
  | call s _ ran _ ih =>
    refine ih ?_
    show _ + 1 = _
    rw [Logged.calls_runs ran, counted]

end Counted

variable {σ τ : Type} [RowStore σ] [TriggerHost τ]

/-! ### Requests -/

namespace Request

variable {s : Session σ}

/-- The lookup of a type is resolved by its cache, or it does nothing. -/
theorem lookup_cases {r : Request} {l : Lookup} (looks : r.lookup? = some l)
    (observed : String → Bool) :
    (r.run observed s).2 = s ∨
      ∃ c m, (Work.resolve l.typeName : Work σ _) s = (.ok (c, m), s) := by
  rcases ran : (Work.resolve l.typeName : Work σ _) s with ⟨e | ⟨c, m⟩, t⟩
  · obtain ⟨rfl, _⟩ := Work.resolve_cases ran
    exact .inl (r.lookup_unresolved looks ran observed)
  · obtain ⟨rfl, _⟩ := Work.resolve_cases ran
    exact .inr ⟨c, m, rfl⟩

/-- Every call of a request is counted. -/
theorem run_calls (r : Request) (observed : String → Bool) (s : Session σ) :
    s.gateway.Calls (fun _ => True) (r.run observed s).2.gateway := by
  cases looks : r.lookup? with
  | none => exact (r.course looks observed).counts.1
  | some l =>
    rcases lookup_cases (s := s) looks observed with same | ⟨c, m, resolved⟩
    · rw [same]
      exact .refl _
    · exact (r.lookup_course looks resolved observed).counts.1

/-- A request that is no lookup, or a lookup that refreshes, counts neither hits nor misses. -/
theorem run_uncounted {r : Request} (refreshes : ∀ l, r.lookup? = some l → l.policy = .forceRefresh)
    (observed : String → Bool) (s : Session σ) :
    (r.run observed s).2.hits = s.hits ∧ (r.run observed s).2.misses = s.misses := by
  cases looks : r.lookup? with
  | none => exact (r.course looks observed).counts.2
  | some l =>
    rcases lookup_cases (s := s) looks observed with same | ⟨c, m, resolved⟩
    · rw [same]
      exact ⟨rfl, rfl⟩
    · have counts := (r.lookup_course looks resolved observed).counts.2
      simpa [Session.counting, Lookup.hits, Lookup.misses, refreshes l looks] using counts

/-- A request counts what its lookup of a registered type counts as. -/
theorem run_counts {r : Request} {l : Lookup} {c : IdentityCache} (sound : s.Sound)
    (looks : r.lookup? = some l) (cached : s.caches.get? l.typeName = some c)
    (observed : String → Bool) :
    (r.run observed s).2.hits = s.hits + l.hits c ∧
      (r.run observed s).2.misses = s.misses + l.misses c :=
  (r.lookup_course looks (sound.resolve_ok cached) observed).counts.2

/-- A lookup of a type that is not registered counts nothing. -/
theorem run_unregistered {r : Request} {l : Lookup} (looks : r.lookup? = some l)
    (unregistered : s.caches.get? l.typeName = none) (observed : String → Bool) :
    (r.run observed s).2 = s := by
  rcases lookup_cases (s := s) looks observed with same | ⟨c, m, resolved⟩
  · exact same
  · have cached := ((Work.resolve_cases resolved).2 c m rfl).1
    rw [unregistered] at cached
    cases cached

end Request

/-! ### Operations -/

/-- The lookup that an operation makes, if it makes one under a policy of its own. -/
def Operation.lookup? : Operation → Option Lookup
  | request r => r.lookup?
  | _ => none

namespace Store

/-- What `count` says of the lookup of an operation, if its type is registered. -/
def counted (count : Lookup → IdentityCache → Nat) (op : Operation) (s : Store σ τ) : Nat :=
  match op.lookup? with
  | none => 0
  | some l =>
    match s.session.caches.get? l.typeName with
    | none => 0
    | some c => count l c

/-- The same over a run, each operation in the state that it meets. -/
def countedOver (count : Lookup → IdentityCache → Nat) : List Operation → Store σ τ → Nat
  | [], _ => 0
  | op :: rest, s => counted count op s + countedOver count rest (op.run s).2

/-- An operation that is no lookup, or a lookup that refreshes, counts neither hits nor misses. -/
theorem run_uncounted {op : Operation}
    (refreshes : ∀ l, op.lookup? = some l → l.policy = .forceRefresh) (s : Store σ τ) :
    (op.run s).2.session.hits = s.session.hits ∧
      (op.run s).2.session.misses = s.session.misses := by
  have each : ∀ r, op.MayAsk r → ∀ l, r.lookup? = some l → l.policy = .forceRefresh := by
    intro r asked l looks
    cases op with
    | request _ =>
      cases asked
      exact refreshes l looks
    | delete _ | deleteInstances _ =>
      obtain ⟨_, _, rfl⟩ := asked
      cases looks
    | refresh | refreshScheduled _ _ =>
      obtain ⟨_, rfl⟩ := asked
      cases looks
    | refreshInstances _ =>
      obtain ⟨_, _, rfl⟩ := asked
      cases looks
      rfl
    | _ => cases asked
  refine (op.serves s).keeps
    (I := fun u => u.hits = s.session.hits ∧ u.misses = s.session.misses) ⟨rfl, rfl⟩ ?_ ?_
  · intro r observed u asked same
    obtain ⟨hits, misses⟩ := Request.run_uncounted (each r asked) observed u
    exact ⟨hits.trans same.1, misses.trans same.2⟩
  · exact fun _ same => same

/-- An operation counts what its lookup counts as. -/
theorem run_counts {s : Store σ τ} (sound : s.session.Sound) (op : Operation) :
    (op.run s).2.session.hits = s.session.hits + counted Lookup.hits op s ∧
      (op.run s).2.session.misses = s.session.misses + counted Lookup.misses op s := by
  cases looks : op.lookup? with
  | none =>
    simp only [counted, looks]
    exact run_uncounted (by simp [looks]) s
  | some l =>
    cases op with
    | request r =>
      have after : (Operation.run (.request r) s).2.session = _ := ask_session r s
      simp only [counted, looks, after]
      cases cached : s.session.caches.get? l.typeName with
      | none =>
        rw [Request.run_unregistered looks cached]
        exact ⟨rfl, rfl⟩
      | some c => exact Request.run_counts sound looks cached _
    | _ => cases looks

/-- A lookup under the policy that never fetches makes no call. -/
theorem run_cacheOnly {op : Operation} {l : Lookup} (looks : op.lookup? = some l)
    (only : l.policy = .cacheOnly) (s : Store σ τ) :
    (op.run s).2.session.gateway = s.session.gateway := by
  cases op with
  | request r =>
    have after : (Operation.run (.request r) s).2.session = _ := ask_session r s
    rw [after]
    rcases Request.lookup_cases (s := s.session) looks s.dispatcher.hasTriggers with
      same | ⟨c, m, resolved⟩
    · rw [same]
    · exact Request.cacheOnly_gateway looks resolved only _
  | _ => cases looks

/-- The lookup of a whole table makes one call, unless the cache serves it. -/
theorem run_table {s : Store σ τ} (sound : s.session.Sound) {op : Operation} {l : Lookup}
    {c : IdentityCache} (looks : op.lookup? = some l) (table : l.sought = .table)
    (trusting : l.policy ≠ .forceRefresh) (cached : s.session.caches.get? l.typeName = some c) :
    (op.run s).2.session.gateway.roundTrips
      = s.session.gateway.roundTrips + (1 - l.cached c) := by
  cases op with
  | request r =>
    have after : (Operation.run (.request r) s).2.session = _ := ask_session r s
    rw [after]
    exact Request.lookup_roundTrips looks (sound.resolve_ok cached) table trusting _
  | _ => cases looks

/-! ### Runs -/

theorem after_counts {s : Store σ τ} (sound : s.session.Sound) (ops : List Operation) :
    (s.after ops).session.hits = s.session.hits + countedOver Lookup.hits ops s ∧
      (s.after ops).session.misses = s.session.misses + countedOver Lookup.misses ops s := by
  induction ops generalizing s with
  | nil => exact ⟨rfl, rfl⟩
  | cons op rest ih =>
    obtain ⟨hits, misses⟩ := run_counts sound op
    obtain ⟨moreHits, moreMisses⟩ := ih (op.run_sound sound)
    rw [hits, Nat.add_assoc] at moreHits
    rw [misses, Nat.add_assoc] at moreMisses
    exact ⟨moreHits, moreMisses⟩

/-- Hits and misses make up all lookups that count. -/
theorem countedOver_add (ops : List Operation) (s : Store σ τ) :
    countedOver Lookup.hits ops s + countedOver Lookup.misses ops s
      = countedOver (fun l _ => l.counted) ops s := by
  have one (op : Operation) (s : Store σ τ) :
      counted Lookup.hits op s + counted Lookup.misses op s
        = counted (fun l _ => l.counted) op s := by
    unfold counted
    split
    · rfl
    · rename_i l _
      split
      · rfl
      · rename_i c _
        exact l.hits_add_misses c
  induction ops generalizing s with
  | nil => rfl
  | cons op rest ih =>
    have first := one op s
    have later := ih (op.run s).2
    simp only [countedOver]
    omega

/-- The calls so far are the round trips so far. -/
theorem after_counted {s : Store (Logged σ) τ} (counted : s.session.gateway.Counted)
    (ops : List Operation) : (s.after ops).session.gateway.Counted :=
  after_keeps (P := fun _ => True) (I := fun u => u.gateway.Counted) (fun _ _ _ _ => trivial)
    counted (fun r observed u _ counted => (r.run_calls observed u).counted counted)
    fun _ counted => counted

/-- The counters tell the truth over whole runs of a store that has been opened, whatever its row
store answers and wherever it fails: round trips are calls to the row store; hits and misses are the
lookups of registered types that trust the cache, one for each distinct key or for a whole table;
hits are those of them that the cache serves. Nothing else is counted: no lookup that refreshes, no
change, no refresh. A lookup that the cache serves makes no call, if it is of a whole table or under
the policy that never fetches. -/
theorem counters_over_runs {dialect : Sql.Dialect} {settings : Settings} {rows : σ} {host : τ}
    {s : Store (Logged σ) τ} (opened : openWith dialect settings ⟨rows, []⟩ host = .ok s)
    (ops : List Operation) :
    let now := s.after ops
    now.stats.roundTrips = now.session.gateway.rows.calls.length ∧
    now.stats.hits + now.stats.misses = countedOver (fun l _ => l.counted) ops s ∧
    now.stats.hits = countedOver Lookup.hits ops s ∧
    (∀ op : Operation, (∀ l, op.lookup? = some l → l.policy = .forceRefresh) →
      (op.run now).2.stats.hits = now.stats.hits ∧
      (op.run now).2.stats.misses = now.stats.misses) ∧
    (∀ (op : Operation) (l : Lookup), op.lookup? = some l → l.policy = .cacheOnly →
      (op.run now).2.session.gateway.rows.calls = now.session.gateway.rows.calls) ∧
    (∀ (op : Operation) (l : Lookup) (c : IdentityCache), op.lookup? = some l → l.sought = .table →
      l.policy ≠ .forceRefresh → now.session.caches.get? l.typeName = some c →
      (l.cached c = 1 ↔
        (op.run now).2.session.gateway.rows.calls.length
          = now.session.gateway.rows.calls.length)) := by
  intro now
  have start := opened_session opened
  have new : s.session.Sound := start ▸ sound_new settings _
  have zeros : s.session.hits = 0 ∧ s.session.misses = 0 := start ▸ ⟨rfl, rfl⟩
  have uncalled : s.session.gateway.Counted := by
    rw [start]
    rfl
  have sound : now.session.Sound := after_sound new ops
  obtain ⟨hits, misses⟩ := after_counts new ops
  rw [zeros.1, Nat.zero_add] at hits
  rw [zeros.2, Nat.zero_add] at misses
  refine ⟨after_counted uncalled ops, ?lookups, hits,
    fun op refreshes => run_uncounted refreshes now, ?cacheOnly, ?table⟩
  case lookups =>
    rw [← countedOver_add]
    exact congrArg₂ (· + ·) hits misses
  case cacheOnly =>
    intro op l looks only
    exact congrArg (·.rows.calls) (run_cacheOnly looks only now)
  case table =>
    intro op l c looks table trusting cached
    have trips := run_table sound looks table trusting cached
    have before : now.session.gateway.Counted := after_counted uncalled ops
    have later : (op.run now).2.session.gateway.Counted := after_counted before [op]
    have once : l.cached c ≤ 1 := by
      have fewer := l.cached_le_size c
      simpa [Lookup.size, table] using fewer
    unfold Gateway.Counted at before later
    rw [← before, ← later, trips]
    omega

end Store

/-- A store that has just been opened on a script whose calls are logged. -/
def Sample.logged (replies : List Reply) : Store (Logged Script) ScriptedHost where
  session := {
    settings := { createTables := false }
    gateway := { dialect := Sql.Dialect.ansi, rows := ⟨{ replies := replies }, []⟩ } }
  host := {}

open Sample in
/-- Two keys are missed by a lookup that fails, one of them is fetched later, and then it is a hit.
A table is counted by the row store until it has been loaded. -/
theorem Store.counters_over_runs_gauge :
    let s := logged [.failure (.backend "script" "down"), .rows [row 1 5],
      .rows [⟨["n"], [.int 1]⟩], .rows [row 1 6], .failure (.backend "script" "down")]
    let ops : List Operation := [.request (.register gauge),
      .request (.getSome "Gauge" [.int 1, .int 2, .int 1] .cacheFirst),
      .request (.get "Gauge" (.int 1) .cacheFirst),
      .request (.getSome "Gauge" [.int 2, .int 1] .cacheOnly),
      .request (.getSize "Gauge" .cacheFirst), .request (.getAll "Gauge" .forceRefresh),
      .request (.getSize "Gauge" .cacheFirst), .refresh]
    (s.after ops).stats = ⟨2, 5, 5, 0, 0⟩ ∧
    (s.after ops).session.gateway.rows.calls.length = 5 ∧
    countedOver (fun l _ => l.counted) ops s = 7 ∧ countedOver Lookup.hits ops s = 2 := by
  intro s ops
  have opened : openWith Sql.Dialect.ansi { createTables := false } s.session.gateway.rows {}
      = .ok s := rfl
  obtain ⟨trips, lookups, hits, -⟩ := Store.counters_over_runs opened ops
  have stats : (s.after ops).stats = ⟨2, 5, 5, 0, 0⟩ := by decide +kernel
  rw [stats] at trips lookups hits
  exact ⟨stats, trips.symm, lookups.symm, hits.symm⟩

end IdentityMap
