import IdentityMap.Proofs.Store.Counters
/-!
# Statements over lists of keys

A row store with a log shows the statements over keys and their parameters. A list of keys goes into
one statement, with a parameter for each of them, and no list is ever parted. So the statement
stays within the number of parameters that the dialect allows just where the list is short enough
(`KeyList.within_iff`); which lists there are, the request and the cache decide
(`Store.statements_for_keys`). Inserts are parted by that number, and lists of keys are not.
-/

namespace IdentityMap

variable {σ τ : Type} [RowStore σ] [TriggerHost τ]

/-- Every run of the statement has at most `limit` parameters. -/
def Call.Within (limit : Nat) (call : Call) : Prop :=
  ∀ params ∈ call.paramSets, params.length ≤ limit

instance (limit : Nat) (call : Call) : Decidable (call.Within limit) :=
  inferInstanceAs (Decidable (∀ params ∈ call.paramSets, params.length ≤ limit))

/-- Keys whose rows are asked for, or deleted, in one statement. -/
inductive KeyList
  | read (keys : List EntityKey)
  | delete (keys : List EntityKey)

namespace KeyList

def keys : KeyList → List EntityKey
  | read keys => keys
  | delete keys => keys

/-- What the statement does, and to the rows with which keys. -/
def call (d : Sql.Dialect) (m : TableMapping) : KeyList → Call
  | read keys =>
    ⟨.query, d.statement (.selectKeys m.table (Sql.Dialect.columnNames m.columns) m.keyColumn.name
      keys.length) (Sql.Dialect.keyFields m keys.length) 1, [keys.map EntityKey.toValue]⟩
  | delete keys =>
    ⟨.execute, d.statement (.deleteKeys m.table m.keyColumn.name keys.length)
      (Sql.Dialect.keyFields m keys.length) 1, [keys.map EntityKey.toValue]⟩

/-- The statement that is sent, unless there are no keys. -/
def calls (d : Sql.Dialect) (m : TableMapping) (l : KeyList) : List Call :=
  if l.keys = [] then [] else [l.call d m]

/-- A statement over keys stays within a limit just where there are no more keys than that. -/
theorem within_iff (d : Sql.Dialect) (m : TableMapping) (l : KeyList) (limit : Nat) :
    (∀ call ∈ l.calls d m, call.Within limit) ↔ l.keys.length ≤ limit := by
  by_cases none : l.keys = []
  · simp [calls, none]
  · have params : (l.call d m).paramSets = [l.keys.map EntityKey.toValue] := by cases l <;> rfl
    simp [calls, none, Call.Within, params]

/-- Its text has as many placeholders as there are parameters. -/
theorem paramCount_call (d : Sql.Dialect) (m : TableMapping) (l : KeyList) :
    (l.call d m).statement.paramCount = l.keys.length := by
  cases l <;> simp [call, keys, Sql.Dialect.statement, Sql.Statement.paramCount,
    Sql.Dialect.keyFields]

end KeyList

/-! ### Calls of the gateway -/

namespace TableMapping

variable {m : TableMapping} {keys : List EntityKey}

theorem selectKeys_some (d : Sql.Dialect) (some : keys ≠ []) :
    d.selectKeys m keys.length = .ok ((KeyList.read keys).call d m).statement := by
  simp only [Sql.Dialect.selectKeys, List.length_eq_zero_iff, some, if_false]
  rfl

theorem deleteKeys_some (d : Sql.Dialect) (some : keys ≠ []) :
    d.deleteKeys m keys.length = .ok ((KeyList.delete keys).call d m).statement := by
  simp only [Sql.Dialect.deleteKeys, List.length_eq_zero_iff, some, if_false]
  rfl

theorem fetchKeys_nil : (m.fetchKeys [] : Access σ _) = pure [] := if_pos rfl

theorem fetchKeys_dialect (keys : List EntityKey) (g : Gateway σ) :
    (m.fetchKeys keys g).2.dialect = g.dialect := by
  by_cases none : keys = []
  · subst none
    rw [fetchKeys_nil]
    rfl
  · rw [fetchKeys_eq (selectKeys_some g.dialect none)]

theorem fetchKeys_logged (keys : List EntityKey) (g : Gateway (Logged σ)) :
    (m.fetchKeys keys g).2.rows.calls
      = g.rows.calls ++ (KeyList.read keys).calls g.dialect m := by
  unfold KeyList.calls KeyList.keys
  by_cases none : keys = []
  · subst none
    rw [fetchKeys_nil, if_pos rfl, List.append_nil]
    rfl
  · rw [fetchKeys_eq (selectKeys_some g.dialect none), if_neg none]
    rfl

theorem deleteRows_logged (keys : List EntityKey) (g : Gateway (Logged σ)) :
    (m.deleteRows keys g).2.rows.calls
      = g.rows.calls ++ (KeyList.delete keys).calls g.dialect m := by
  unfold deleteRows KeyList.calls KeyList.keys
  by_cases none : keys = []
  · rw [if_pos none, if_pos none, List.append_nil]
    rfl
  · rw [if_neg none, if_neg none, Access.dialect_bind, deleteKeys_some g.dialect none,
      Access.ofExcept_ok_bind]
    rfl

end TableMapping

/-! ### Requests over keys -/

namespace Session

variable {c : IdentityCache} {m : TableMapping} {typeName : String}

/-- Fetching keys sends what the gateway sends for them; merging the answer sends nothing. -/
theorem fetchKeys_gateway (keys : List EntityKey) (s : Session σ) :
    (fetchKeys m keys s).2.gateway = (m.fetchKeys keys s.gateway).2 := by
  unfold fetchKeys
  rcases ran : m.fetchKeys keys s.gateway with ⟨e | records, g⟩
  · rw [bind_of_error (Work.access_eq ran)]
  · rw [bind_of_ok (Work.access_eq ran), changeCache_gateway]

/-- Without keys there is nothing to fetch. -/
theorem fetch_gateway (keys : List EntityKey) (answer : List Handle → List Handle)
    (s : Session σ) :
    ((do
      let fetched ← if keys = [] then pure [] else fetchKeys m keys
      return answer fetched : Work σ _) s).2.gateway = (m.fetchKeys keys s.gateway).2 := by
  split
  · rename_i none
    simp only [TableMapping.fetchKeys, none, if_true]
    rfl
  · rw [← fetchKeys_gateway]
    rcases ran : fetchKeys m keys s with ⟨e | fetched, t⟩
    · rw [bind_of_error ran]
    · rw [bind_of_ok ran]
      rfl

variable {s : Session σ} (resolved : (Work.resolve typeName : Work σ _) s = (.ok (c, m), s))
include resolved

theorem getSome_gateway (keys : List EntityKey) (policy : CachePolicy) :
    (getSome typeName keys policy s).2.gateway
      = (m.fetchKeys (c.planLookup keys policy).fetch s.gateway).2 := by
  rw [getSome_eq resolved]
  exact fetch_gateway _ _ (s.counting _ _)

theorem refreshType_gateway (unsynced : c.synced = false) :
    (refreshType typeName s).2.gateway = (m.fetchKeys c.keys s.gateway).2 := by
  unfold refreshType
  rw [bind_of_ok resolved]
  dsimp only
  rw [if_neg (by simp [unsynced])]
  split
  · rw [← fetchKeys_gateway]
    rcases ran : fetchKeys m c.keys s with ⟨e | fetched, t⟩
    · rw [bind_of_error ran]
    · rw [bind_of_ok ran]
      rfl
  · rename_i none
    simp only [TableMapping.fetchKeys, not_not.1 none, if_true]
    rfl

end Session

/-- What a run has sent of some lists of keys that it is about: the first ones, and all of them
unless it has failed. -/
structure Session.Sends {α : Type} (d : Sql.Dialect) (m : TableMapping) (lists : List KeyList)
    (s : Session (Logged σ)) (after : Except Error α × Session (Logged σ)) (sent : List KeyList) :
    Prop where
  first : sent <+: lists
  calls : after.2.gateway.rows.calls = s.gateway.rows.calls ++ sent.flatMap (KeyList.calls d m)
  all : after.1.isOk = true → sent = lists

namespace Session

variable {c : IdentityCache} {m : TableMapping} {typeName : String} {s : Session (Logged σ)}

omit [RowStore σ] in
theorem sends_all {α : Type} {d : Sql.Dialect} {lists : List KeyList} {s : Session (Logged σ)}
    {after : Except Error α × Session (Logged σ)}
    (calls : after.2.gateway.rows.calls
      = s.gateway.rows.calls ++ lists.flatMap (KeyList.calls d m)) :
    Sends d m lists s after lists :=
  ⟨List.prefix_rfl, calls, fun _ => rfl⟩

/-- Deleting rows sends what the gateway sends for it; changing the cache sends nothing. -/
theorem deletion_gateway (keys : List EntityKey)
    (change : IdentityCache → Except Error ((Unit × List Event) × IdentityCache)) (s : Session σ) :
    ((do
      let deleted ← Work.access (m.deleteRows keys)
      Work.changeCache typeName change
      return deleted : Work σ Nat) s).2.gateway = (m.deleteRows keys s.gateway).2 := by
  rcases wiped : m.deleteRows keys s.gateway with ⟨e | n, g⟩
  · rw [bind_of_error (Work.access_eq wiped)]
  · rw [bind_of_ok (Work.access_eq wiped)]
    have still := changeCache_gateway typeName change { s with gateway := g }
    rcases changed : Work.changeCache typeName change { s with gateway := g } with ⟨e | _, t⟩
    · rw [bind_of_error changed]
      rwa [changed] at still
    · rw [bind_of_ok changed]
      rwa [changed] at still

/-- A deletion reads back what is not cached, where triggers wait for the events, and then deletes
the rows. -/
theorem deleteKeys_sends
    (resolved : (Work.resolve typeName : Work (Logged σ) _) s = (.ok (c, m), s)) (observed : Bool)
    (keys : List EntityKey) :
    ∃ sent, Sends s.gateway.dialect m
      ((if observed then [.read (c.partition (distinct keys)).2] else [])
        ++ [.delete (distinct keys)]) s (deleteKeys observed typeName keys s) sent := by
  unfold deleteKeys
  rw [bind_of_ok resolved]
  dsimp only
  by_cases none : distinct keys = []
  · rw [if_pos none]
    have nothing : (c.partition (distinct keys)).2 = [] := by
      simp [none, IdentityCache.partition, distinct]
    rw [nothing, none]
    refine ⟨_, sends_all ?_⟩
    cases observed <;> exact (List.append_nil _).symm
  rw [if_neg none]
  by_cases asks : (c.partition (distinct keys)).2 ≠ [] ∧ observed = true
  · rw [if_pos asks, if_pos asks.2]
    have reads := TableMapping.fetchKeys_logged (m := m) (c.partition (distinct keys)).2 s.gateway
    have dialect :=
      TableMapping.fetchKeys_dialect (m := m) (c.partition (distinct keys)).2 s.gateway
    rcases ran : m.fetchKeys (c.partition (distinct keys)).2 s.gateway with ⟨e | records, g⟩
    · rw [ran] at reads
      rw [bind_of_error (Work.access_eq ran)]
      refine ⟨[.read (c.partition (distinct keys)).2], List.prefix_append _ _, ?_,
        by simp [Except.isOk, Except.toBool]⟩
      rwa [List.flatMap_cons, List.flatMap_nil, List.append_nil]
    · rw [ran] at reads dialect
      rw [bind_of_ok (Work.access_eq ran)]
      refine ⟨_, sends_all ?_⟩
      rw [deletion_gateway, TableMapping.deleteRows_logged]
      dsimp only at reads dialect ⊢
      rw [reads, dialect]
      simp
  · rw [if_neg asks]
    have silent : (if observed then [KeyList.read (c.partition (distinct keys)).2] else []).flatMap
        (KeyList.calls s.gateway.dialect m) = [] := by
      rw [not_and_or, not_not] at asks
      rcases asks with none | unobserved
      · simp [none, KeyList.calls, KeyList.keys]
      · simp [unobserved]
    have started : (pure [] : Work (Logged σ) (List Record)) s = (.ok [], s) := rfl
    rw [bind_of_ok started]
    refine ⟨_, sends_all ?_⟩
    rw [deletion_gateway, TableMapping.deleteRows_logged, List.flatMap_append, silent]
    simp

end Session

namespace Request

/-- The lists of keys that a request is about, in the order of their statements, given the cache of
its type. `observed` says that triggers wait for the events. -/
def keyLists (observed : Bool) (c : IdentityCache) : Request → List KeyList
  | get _ key policy => [.read (c.planLookup [key] policy).fetch]
  | getSome _ keys policy => [.read (c.planLookup keys policy).fetch]
  | refreshKeys _ keys => [.read (distinct keys)]
  | deleteKeys _ keys =>
    (if observed then [.read (c.partition (distinct keys)).2] else []) ++ [.delete (distinct keys)]
  | refreshType _ => [.read c.keys]
  | _ => []

/-- The request sends no statements but those over lists of keys. A synced cache is refreshed by
loading the table. -/
def Keyed (c : IdentityCache) : Request → Prop
  | get _ _ _ | getSome _ _ _ | refreshKeys _ _ | deleteKeys _ _ => True
  | refreshType _ => c.synced = false
  | _ => False

variable {c : IdentityCache} {typeName : String} {s : Session (Logged σ)}

/-- A request over keys sends the statements over its lists of keys, up to the first that fails. -/
theorem run_sends (sound : s.Sound) {r : Request} (keyed : r.Keyed c)
    (about : r.typeName? = some typeName) (cached : s.caches.get? typeName = some c)
    (observed : String → Bool) :
    ∃ sent, Session.Sends s.gateway.dialect ⟨c.entityType⟩ (r.keyLists (observed typeName) c) s
      (r.run observed s) sent := by
  have resolved := sound.resolve_ok cached
  have reads {after : Except Error (List Handle) × Session (Logged σ)} {keys : List EntityKey}
      (same : after.2.gateway = (TableMapping.fetchKeys ⟨c.entityType⟩ keys s.gateway).2) :
      Session.Sends s.gateway.dialect ⟨c.entityType⟩ [.read keys] s after [.read keys] := by
    refine Session.sends_all ?_
    rw [same, TableMapping.fetchKeys_logged, List.flatMap_cons, List.flatMap_nil, List.append_nil]
  cases r <;> cases about
  case get key policy =>
    refine ⟨_, reads ?_⟩
    rw [← Session.getSome_gateway resolved, ← Session.get_session]
    rfl
  case getSome keys policy => exact ⟨_, reads (Session.getSome_gateway resolved keys policy)⟩
  case refreshKeys keys => exact ⟨_, reads (Session.getSome_gateway resolved keys .forceRefresh)⟩
  case deleteKeys keys =>
    obtain ⟨sent, first, calls, all⟩ := Session.deleteKeys_sends resolved (observed typeName) keys
    refine ⟨sent, first, calls, fun answered => all ?_⟩
    rcases ran : Session.deleteKeys (observed typeName) typeName keys s with ⟨e | n, t⟩
    · simp [run, Session.instancesIn, ran, Except.map, Except.isOk, Except.toBool] at answered
    · rfl
  case refreshType => exact ⟨_, reads (Session.refreshType_gateway resolved keyed)⟩
  all_goals exact keyed.elim

end Request

/-- **A list of keys is one statement.** Fetching or deleting rows by key sends one statement for
all the keys, with a parameter for each, and none without keys. So it is in every state that a store
gets into: a lookup of keys sends a statement over those that the cache does not serve, the refresh
of a cache that is not synced one over all its keys, and a deletion one over its keys, after one
over those that are not cached, where triggers wait for the events. Each stays within the number of
parameters that the dialect allows if and only if its keys are no more than that. -/
theorem Store.statements_for_keys {s : Store (Logged σ) τ} (reachable : s.Reachable) {r : Request}
    {typeName : String} {c : IdentityCache} (about : r.typeName? = some typeName)
    (cached : s.session.caches.get? typeName = some c) (keyed : r.Keyed c) :
    (∀ (m : TableMapping) (keys : List EntityKey) (g : Gateway (Logged σ)),
      (m.fetchKeys keys g).2.rows.calls = g.rows.calls ++ (KeyList.read keys).calls g.dialect m ∧
      (m.deleteRows keys g).2.rows.calls
        = g.rows.calls ++ (KeyList.delete keys).calls g.dialect m) ∧
    (let d := s.session.gateway.dialect
      ∃ sent, sent <+: r.keyLists (s.dispatcher.hasTriggers typeName) c ∧
        (s.ask r).2.session.gateway.rows.calls = s.session.gateway.rows.calls
          ++ sent.flatMap (KeyList.calls d ⟨c.entityType⟩) ∧
        ((s.ask r).1.isOk = true → sent = r.keyLists (s.dispatcher.hasTriggers typeName) c)) ∧
    ∀ (d : Sql.Dialect) (m : TableMapping) (l : KeyList),
      ((∀ call ∈ l.calls d m, call.Within d.maxParams) ↔ l.keys.length ≤ d.maxParams) ∧
      (l.call d m).statement.paramCount = l.keys.length := by
  refine ⟨fun m keys g => ⟨m.fetchKeys_logged keys g, m.deleteRows_logged keys g⟩, ?requests,
    fun d m l => ⟨l.within_iff d m d.maxParams, l.paramCount_call d m⟩⟩
  obtain ⟨sent, first, calls, all⟩ :=
    Request.run_sends reachable.sound keyed about cached s.dispatcher.hasTriggers
  refine ⟨sent, first, ?_, ?_⟩
  · rw [Store.ask_session]
    exact calls
  · rw [Store.ask_eq]
    exact all

/-- A dialect that allows one parameter for each statement. -/
def Sample.narrow : Sql.Dialect := { Sql.Dialect.ansi with name := "narrow", maxParams := 1 }

/-- A store over this dialect, whose row store answers with two gauges. -/
def Sample.narrowStore : Store (Logged Script) ScriptedHost where
  session := {
    settings := { createTables := false }
    gateway := {
      dialect := Sample.narrow
      rows := ⟨{ replies := [.rows [row 1 5, row 2 6]] }, []⟩ } }
  host := {}

open Sample in
/-- Two gauges are asked for in a statement with two parameters, where the dialect allows one. -/
theorem Store.statements_for_keys_gauges :
    let s := narrowStore.after [.request (.register gauge)]
    let r : Request := .getSome "Gauge" [.int 1, .int 2, .int 1] .cacheFirst
    s.Reachable ∧ s.session.caches.get? "Gauge" = some (.new gauge) ∧
      (s.ask r).2.session.gateway.rows.calls
        = (KeyList.read [.int 1, .int 2]).calls narrow ⟨gauge⟩ ∧
      ¬∀ call ∈ (KeyList.read [.int 1, .int 2]).calls narrow ⟨gauge⟩,
        call.Within narrow.maxParams := by
  intro s r
  have reachable : s.Reachable := ⟨narrow, { createTables := false },
    narrowStore.session.gateway.rows, {}, narrowStore, [.request (.register gauge)], rfl, rfl⟩
  have cached : s.session.caches.get? "Gauge" = some (.new gauge) := by decide +kernel
  obtain ⟨-, ⟨sent, -, calls, all⟩, limit⟩ :=
    Store.statements_for_keys (r := r) reachable rfl cached trivial
  have lists : r.keyLists (s.dispatcher.hasTriggers "Gauge") (.new gauge)
      = [.read [.int 1, .int 2]] := by rfl
  have dialect : s.session.gateway.dialect = narrow := rfl
  have none : s.session.gateway.rows.calls = [] := rfl
  have answered : (s.ask r).1.isOk = true := by decide +kernel
  rw [all answered, lists, none, dialect] at calls
  refine ⟨reachable, cached, calls, ?_⟩
  rw [(limit narrow ⟨gauge⟩ (.read [.int 1, .int 2])).1]
  decide

open Sample in
/-- A list of keys is not parted: no number of parameters that a dialect allows is kept. -/
theorem TableMapping.keys_beyond_limit :
    let g : Gateway (Logged Script) := { dialect := narrow, rows := ⟨{}, []⟩ }
    1 ≤ narrow.maxParams ∧
      (∃ call ∈ (TableMapping.fetchKeys ⟨gauge⟩ [.int 1, .int 2] g).2.rows.calls,
        ¬call.Within narrow.maxParams) ∧
      ∃ call ∈ (TableMapping.deleteRows ⟨gauge⟩ [.int 1, .int 2] g).2.rows.calls,
        ¬call.Within narrow.maxParams := by
  intro g
  rw [fetchKeys_logged, deleteRows_logged]
  decide +kernel

end IdentityMap
