import IdentityMap.Proofs.Cache.Settled
import IdentityMap.Proofs.Coherence.Mirror
import IdentityMap.Proofs.Rearranged
import IdentityMap.Proofs.Store.KeyedLookup
import IdentityMap.Proofs.Store.WholeTable
import Mathlib.Data.List.Perm.Basic
/-!
# Tables at rest

A table that nobody writes to answers every query with the rows that it is asked for
(`RowStore.AtRest`). A request that reads rows anew merges what it has read into one cache
(`Request.Refreshes.run_eq`), so that the cache holds what the table has there
(`Request.Settled`, `Request.Refreshes.settles`). The same request then finds everything as it is
(`Request.Settled.run`).
-/

namespace IdentityMap

variable {σ : Type}

/-! ### Rows and their keys -/

/-- The key that a row has in the key column. -/
def EntityType.keyIn? (t : EntityType) (row : Row) : Option EntityKey :=
  (row.byName? t.key.column).bind EntityKey.ofValue?

section Rows

variable {t : EntityType} {rows rows' : List Row} {records : List Record}

/-- The record of a row carries the key of the row. -/
theorem Row.keyOf?_decode {row : Row} {r : Record} (decoded : row.decode ⟨t⟩ = .ok r) :
    t.keyOf? r = t.keyIn? row := by
  obtain ⟨raw, v, found, fits, stored⟩ := (Row.decodeColumns_ok t.fields_apart decoded).1
    (t.columnOf t.key) (List.mem_map_of_mem t.wellFormed.keyDeclared)
  obtain rfl := ScalarType.decode_key t.wellFormed.keyType fits
  exact congrArg (·.bind EntityKey.ofValue?) (stored.trans found.symm)

namespace TableMapping

theorem decodeRows_forall₂ {m : TableMapping} : m.decodeRows rows = .ok records ↔
    List.Forall₂ (fun row r => row.decode m = .ok r) rows records := by
  simpa only [decodeRows_singleton_ok] using decodeRows_ok_iff

/-- Rows in another order are decoded to the records in another order. -/
theorem decodeRows_perm {m : TableMapping} (decoded : m.decodeRows rows = .ok records)
    (same : rows'.Perm rows) :
    ∃ records', m.decodeRows rows' = .ok records' ∧ records'.Perm records := by
  obtain ⟨records', decoded', order⟩ :=
    List.perm_comp_forall₂ same (decodeRows_forall₂.1 decoded)
  exact ⟨records', decodeRows_forall₂.2 decoded', order⟩

/-- The records carry the keys of the rows. -/
theorem keys_decodeRows (decoded : decodeRows ⟨t⟩ rows = .ok records) :
    records.filterMap t.keyOf? = rows.filterMap t.keyIn? := by
  induction decodeRows_forall₂.1 decoded with
  | nil => rfl
  | @cons row r _ _ first later ih =>
    have others := ih (decodeRows_forall₂.2 later)
    simp only [List.filterMap_cons, Row.keyOf?_decode first, others]

end TableMapping

end Rows

/-! ### What is read -/

namespace RefreshScope

/-- The rows of a table that are read. -/
def rows (t : EntityType) (all : List Row) : RefreshScope → List Row
  | keys asked => all.filter fun row => ∃ key ∈ asked, t.keyIn? row = some key
  | table => all

/-- How many queries are sent. Without keys there is nothing to ask for. -/
def queries : RefreshScope → Nat
  | keys asked => if asked = [] then 0 else 1
  | table => 1

variable {scope : RefreshScope} {t : EntityType} {all : List Row} {row : Row}

theorem rows_sublist (scope : RefreshScope) (t : EntityType) (all : List Row) :
    (scope.rows t all).Sublist all := by
  cases scope with
  | keys asked => exact List.filter_sublist
  | table => exact .refl all

theorem covers_of_mem (listed : row ∈ scope.rows t all) {key : EntityKey}
    (own : t.keyIn? row = some key) : scope.Covers key := by
  cases scope with
  | keys asked =>
    obtain ⟨k, inAsked, same⟩ := of_decide_eq_true (List.mem_filter.1 listed).2
    rwa [Option.some.inj (own.symm.trans same)]
  | table => trivial

theorem mem_rows (listed : row ∈ all) {key : EntityKey} (own : t.keyIn? row = some key)
    (read : scope.Covers key) : row ∈ scope.rows t all := by
  cases scope with
  | keys asked => exact List.mem_filter.2 ⟨listed, decide_eq_true ⟨key, read, own⟩⟩
  | table => exact listed

end RefreshScope

variable [RowStore σ]

/-- Read rows anew. -/
def Gateway.reread (t : EntityType) (scope : RefreshScope) (g : Gateway σ) :
    Except Error (List Record) × Gateway σ :=
  match scope with
  | .keys asked => g.lookUp t asked
  | .table => TableMapping.fetchAll ⟨t⟩ g

/-! ### A table that nobody writes to -/

open RowStore (Queried)

/-- The table of the type has the rows `all`, whatever else is asked of the row store: a query for
the table lists them, and a query for keys brings those with the keys, in any order. No two of them
have one key, and none has a NaN. -/
structure RowStore.AtRest (d : Sql.Dialect) (t : EntityType) (all : List Row) (rows : σ) :
    Prop where
  listed : ∀ rows', Queried rows rows' →
    (RowStore.query (d.selectAll ⟨t⟩) [] rows').1 = .ok all
  found : ∀ rows', Queried rows rows' → ∀ (keys : List EntityKey) (statement : Sql.Statement),
    d.selectKeys ⟨t⟩ keys.length = .ok statement →
    ∃ answer, (RowStore.query statement (keys.map EntityKey.toValue) rows').1 = .ok answer ∧
      answer.Perm (all.filter fun row => ∃ key ∈ keys, t.keyIn? row = some key)
  distinct : (all.filterMap t.keyIn?).Nodup
  numbers : ∀ row ∈ all, ∀ v ∈ row.values, v.isNaN = false

namespace RowStore.AtRest

variable {d : Sql.Dialect} {t : EntityType} {all answer : List Row} {rows rows' : σ}
  {scope : RefreshScope} {records : List Record}

theorem queried (rest : AtRest d t all rows) (asked : Queried rows rows') :
    AtRest d t all rows' where
  listed _ later := rest.listed _ (asked.trans later)
  found _ later := rest.found _ (asked.trans later)
  distinct := rest.distinct
  numbers := rest.numbers

/-- Rows of the table are decoded to records with different keys, of which none has a NaN. -/
theorem decoded (rest : AtRest d t all rows) (same : answer.Perm (scope.rows t all))
    (decoded : TableMapping.decodeRows ⟨t⟩ answer = .ok records) :
    IdentityCache.KeysOnce t records ∧ ∀ r ∈ records, r.hasNaN = false := by
  constructor
  · have keys := (same.filterMap t.keyIn?).nodup_iff
    rw [IdentityCache.KeysOnce, TableMapping.keys_decodeRows decoded, keys]
    exact ((scope.rows_sublist t all).filterMap _).nodup rest.distinct
  · intro r listed
    obtain ⟨row, here, made⟩ := (TableMapping.mem_decodeRows decoded).1 r listed
    have member := (scope.rows_sublist t all).subset (same.mem_iff.1 here)
    exact Row.hasNaN_decode (rest.numbers row member) made

end RowStore.AtRest

namespace Gateway

variable {t : EntityType} {all : List Row} {g : Gateway σ}

/-- Rows are read by one query at most, and what comes back is what the wanted rows decode to. -/
theorem reread_atRest (rest : RowStore.AtRest g.dialect t all g.rows) (scope : RefreshScope) :
    ∃ answer rows, g.reread t scope = (TableMapping.decodeRows ⟨t⟩ answer,
        { g with rows, roundTrips := g.roundTrips + scope.queries }) ∧
      Queried g.rows rows ∧ answer.Perm (scope.rows t all) ∧ (scope = .table → answer = all) := by
  cases scope with
  | keys asked =>
    simp only [reread, lookUp, RefreshScope.queries]
    by_cases none : asked = []
    · refine ⟨[], g.rows, by simp [none, TableMapping.decodeRows], .refl, ?_, by simp⟩
      simp [RefreshScope.rows, none]
    · obtain ⟨answer, answered, order⟩ :=
        rest.found g.rows .refl asked _ (TableMapping.selectKeys_some g.dialect none)
      refine ⟨answer, _, ?_, .query ((KeyList.read asked).call g.dialect ⟨t⟩).statement
        (asked.map EntityKey.toValue) .refl, order, by simp⟩
      rw [if_neg none, if_neg none, answered]
      rfl
  | table =>
    refine ⟨all, _, ?_, .query (g.dialect.selectAll ⟨t⟩) [] .refl, .refl _, fun _ => rfl⟩
    rw [reread, TableMapping.fetchAll_eq]
    dsimp only
    rw [rest.listed g.rows .refl]
    rfl

end Gateway

/-! ### Requests that read anew -/

namespace Request

/-- The requests that read rows of a type anew, whatever is cached. -/
inductive Refreshes (typeName : String) : Request → Prop
  | getSome (keys : List EntityKey) : Refreshes typeName (.getSome typeName keys .forceRefresh)
  | keys (keys : List EntityKey) : Refreshes typeName (.refreshKeys typeName keys)
  | getAll : Refreshes typeName (.getAll typeName .forceRefresh)
  | type : Refreshes typeName (.refreshType typeName)

/-- What such a request reads, given the cache of the type. -/
def scope (c : IdentityCache) : Request → RefreshScope
  | getSome _ keys _ | refreshKeys _ keys => .keys (distinct keys)
  | refreshType _ => if c.synced then .table else .keys c.keys
  | _ => .table

/-- What it answers with, given the cache afterwards and the records that were read. -/
def answers (c : IdentityCache) (records : List Record) : Request → List Handle
  | getSome _ keys _ | refreshKeys _ keys => c.shown keys
  | getAll _ _ => records.filterMap fun r =>
      (c.entityType.keyOf? r).bind fun key => (c.get? key).map c.handleOf
  | _ => []

variable {typeName : String} {r : Request} {s : Session σ} {c : IdentityCache}
  {observed : String → Bool}

omit [RowStore σ] in
theorem Refreshes.typeName? (refreshes : r.Refreshes typeName) : r.typeName? = some typeName := by
  cases refreshes <;> rfl

end Request

namespace Session

variable {typeName : String} {r : Request} {s : Session σ} {c : IdentityCache}

/-- Read rows anew and merge them into the cache of their type. -/
def rereading (r : Request) (typeName : String) (c : IdentityCache) (s : Session σ) :
    Except Error (List Handle) × Session σ :=
  match s.gateway.reread c.entityType (r.scope c) with
  | (.error e, gateway) => (.error e, { s with gateway })
  | (.ok records, gateway) =>
    match (r.scope c).merge c records with
    | .error e => (.error e, { s with gateway })
    | .ok ((_, events), c') => (.ok (r.answers c' records), { s with
        gateway
        caches := s.caches.insert typeName c'
        outbox := s.outbox ++ events })

theorem getSome_rereading (sound : s.Sound) (cached : s.caches.get? typeName = some c)
    (keys : List EntityKey) : getSome typeName keys .forceRefresh s
      = s.rereading (.getSome typeName keys .forceRefresh) typeName c := by
  have uncounted : s.counting ((Lookup.mk typeName .forceRefresh (.keys keys)).hits c)
      ((Lookup.mk typeName .forceRefresh (.keys keys)).misses c) = s := by
    simp [counting, Lookup.hits, Lookup.misses]
  rw [getSome_run sound cached]
  simp only [uncounted, rereading, Request.scope, Request.answers, Gateway.reread,
    RefreshScope.merge, IdentityCache.wanted]
  rcases s.gateway.lookUp c.entityType (distinct keys) with ⟨e | records, g⟩
  · rfl
  · simp only [Except.bind]
    cases c.mergeFetched (distinct keys) records <;> rfl

theorem reload_rereading (sound : s.Sound) (cached : s.caches.get? typeName = some c) :
    reload ⟨c.entityType⟩ s = s.rereading (.getAll typeName .forceRefresh) typeName c := by
  have named : c.entityType.name = typeName := sound.named _ c cached
  have cacheSound := sound.caches _ c cached
  rcases fetched : TableMapping.fetchAll ⟨c.entityType⟩ s.gateway with ⟨found, g⟩
  have ran := access_changeCache fetched cached fun c records => c.mergeTable records
  unfold reload rereading
  simp only [named, ran, Request.scope, Request.answers, Gateway.reread, RefreshScope.merge,
    fetched]
  cases found with
  | error e => rfl
  | ok records =>
    simp only [Except.bind]
    cases merge : c.mergeTable records with
    | error e => rfl
    | ok merged =>
      obtain ⟨⟨handles, events⟩, c'⟩ := merged
      have type : c'.entityType = c.entityType :=
        (IdentityCache.mergeTable_merged cacheSound merge).steps.entityType
      have listed : records.filterMap (fun r =>
          (c'.entityType.keyOf? r).bind fun key => (c'.get? key).map c'.handleOf) = handles := by
        have all := congrArg (List.filterMap id) (IdentityCache.handles_mergeTable cacheSound merge)
        rw [List.filterMap_map, List.filterMap_map] at all
        rw [type]
        exact all.symm.trans List.filterMap_some
      simp only [listed]

omit [RowStore σ] in
theorem instancesIn_unit {α : Type} (w : Work σ α) (s : Session σ) :
    instancesIn (fun _ => []) ((w >>= fun _ => return () : Work σ Unit) s)
      = instancesIn (fun _ => []) (w s) := by
  rcases ran : w s with ⟨e | a, t⟩
  · rw [bind_of_error ran]
    rfl
  · rw [bind_of_ok ran]
    rfl

/-- Where the instances are not looked at, what is read and merged is all that matters. -/
theorem instancesIn_rereading {a : Access σ (List Record)}
    (fetched : a s.gateway = s.gateway.reread c.entityType (r.scope c))
    (cached : s.caches.get? typeName = some c) (silent : ∀ c records, r.answers c records = []) :
    instancesIn (fun _ => []) ((Work.access a >>= fun records =>
        Work.changeCache typeName fun c' => (r.scope c).merge c' records) s)
      = s.rereading r typeName c := by
  unfold rereading
  rcases read : s.gateway.reread c.entityType (r.scope c) with ⟨found, g⟩
  rw [access_changeCache (fetched.trans read) cached fun c' records => (r.scope c).merge c' records]
  cases found with
  | error e => rfl
  | ok records =>
    simp only [Except.bind, silent]
    cases (r.scope c).merge c records <;> rfl

theorem refreshType_rereading (sound : s.Sound) (cached : s.caches.get? typeName = some c) :
    instancesIn (fun _ => []) (refreshType typeName s)
      = s.rereading (.refreshType typeName) typeName c := by
  have named : c.entityType.name = typeName := sound.named _ c cached
  have silent : ∀ c records, (Request.refreshType typeName).answers c records = [] :=
    fun _ _ => rfl
  unfold refreshType
  rw [bind_of_ok (sound.resolve_ok cached)]
  dsimp only
  by_cases synced : c.synced = true
  · have scope : (Request.refreshType typeName).scope c = .table := if_pos synced
    have read := instancesIn_rereading (a := TableMapping.fetchAll ⟨c.entityType⟩)
      (by rw [scope]; rfl) cached silent
    rw [if_pos synced, instancesIn_unit, reload, named, ← read, scope]
    rfl
  have scope : (Request.refreshType typeName).scope c = .keys c.keys := if_neg synced
  rw [if_neg synced]
  by_cases none : c.keys = []
  · have nothing : c.mergeFetched [] [] = .ok (([], []), c) := rfl
    rw [if_neg (not_not.2 none)]
    simp only [rereading, scope, none, Gateway.reread, Gateway.lookUp, if_true, RefreshScope.merge,
      nothing, OrderedMap.insert_of_get? cached, List.append_nil, silent]
    rfl
  · have read := instancesIn_rereading (a := TableMapping.fetchKeys ⟨c.entityType⟩ c.keys)
      (by rw [scope]; exact TableMapping.fetchKeys_lookUp ..) cached silent
    rw [if_pos none, instancesIn_unit, fetchKeys, named, ← read, scope]
    rfl

end Session

namespace Request.Refreshes

variable {typeName : String} {r : Request} {s : Session σ} {c : IdentityCache}

/-- A request that reads rows anew merges what it has read into the cache. -/
theorem run_eq (refreshes : r.Refreshes typeName) (sound : s.Sound)
    (cached : s.caches.get? typeName = some c) (observed : String → Bool) :
    r.run observed s = s.rereading r typeName c := by
  cases refreshes with
  | getSome keys => exact Session.getSome_rereading sound cached keys
  | keys keys => exact Session.getSome_rereading sound cached keys
  | getAll =>
    show Session.getAll typeName .forceRefresh s = _
    rw [Session.getAll_rowStore sound cached rfl]
    exact Session.reload_rereading sound cached
  | type => exact Session.refreshType_rereading sound cached

end Request.Refreshes

/-! ### Caches that hold what the table has -/

namespace Request

open IdentityCache (Confirms Reread KeysOnce)

/-- The cache holds what the rows `all` of the table are decoded to, as far as the request reads
them, and the request answers with `handles`. -/
def Settled (r : Request) (all : List Row) (c : IdentityCache) (handles : List Handle) : Prop :=
  ∃ records, TableMapping.decodeRows ⟨c.entityType⟩ ((r.scope c).rows c.entityType all)
      = .ok records ∧ c.Confirms (r.scope c) records ∧ r.answers c records = handles

variable {typeName : String} {r : Request} {d : Sql.Dialect} {s s' : Session σ}
  {c c' : IdentityCache} {all answer : List Row} {rows : σ} {records records' : List Record}
  {handles : List Handle} {events : List Event} {observed : String → Bool}

/-- One more revision does not show in an answer. -/
theorem answers_reread {read : EntityKey → Prop} (reread : c.Reread read c')
    (records : List Record) : r.answers c' records = r.answers c records := by
  have shown (keys : List EntityKey) : c'.shown keys = c.shown keys :=
    List.filterMap_congr fun key _ => reread.handle? key
  unfold answers
  simp only [shown, reread.entityType, reread.handle?]

/-- An answer depends on the records only where the whole table is asked for. -/
theorem Refreshes.answers_congr (refreshes : r.Refreshes typeName)
    (same : r = .getAll typeName .forceRefresh → records' = records) :
    r.answers c records' = r.answers c records := by
  cases refreshes with
  | getAll => rw [same rfl]
  | _ => rfl

/-- The refresh of a cache that is not synced asks for its keys. The keys that are left afterwards
stand for the same rows. -/
theorem settled_keys (sound : c.Sound)
    (came : ∀ row ∈ (RefreshScope.keys c.keys).rows c.entityType all, ∀ key,
      c.entityType.keyIn? row = some key →
      ∃ record ∈ records, c.entityType.keyOf? record = some key)
    (merge : c.mergeFetched c.keys records = .ok ((handles, events), c'))
    (confirms : c'.Confirms (.keys c.keys) records) :
    c'.Confirms (.keys c'.keys) records ∧
      (RefreshScope.keys c'.keys).rows c.entityType all
        = (RefreshScope.keys c.keys).rows c.entityType all := by
  have type : c'.entityType = c.entityType :=
    (IdentityCache.mergeFetched_merged sound merge).steps.entityType
  have cached {key : EntityKey} : key ∈ c'.keys ↔ ∃ i, c'.get? key = some i :=
    OrderedMap.mem_keys_iff
  have fewer {key : EntityKey} (left : key ∈ c'.keys) : key ∈ c.keys := by
    obtain ⟨i, found⟩ := cached.1 left
    rcases IdentityCache.get?_mergeFetched sound merge found with
      ⟨listed, carries⟩ | ⟨unread, before⟩
    · obtain ⟨k, -, carries', read, -⟩ := confirms.held _ listed
      rw [type, carries] at carries'
      rwa [Option.some.inj carries']
    · exact absurd (OrderedMap.mem_keys_iff.2 ⟨i, before⟩) unread
  refine ⟨⟨fun record listed => ?held, fun key i read found => ?only, by simp⟩, ?rows⟩
  case held =>
    obtain ⟨key, i, carries, -, found, same⟩ := confirms.held record listed
    exact ⟨key, i, carries, cached.2 ⟨i, found⟩, found, same⟩
  case only => exact confirms.only key i (fewer read) found
  case rows =>
    refine List.filter_congr fun row listed => decide_eq_decide.2 ⟨?_, ?_⟩
    · rintro ⟨key, left, own⟩
      exact ⟨key, fewer left, own⟩
    · rintro ⟨key, asked, own⟩
      obtain ⟨record, here, carries⟩ := came row (RefreshScope.mem_rows listed own asked) key own
      obtain ⟨k, i, carries', -, found, -⟩ := confirms.held record here
      rw [type, carries] at carries'
      cases carries'
      exact ⟨key, cached.2 ⟨i, found⟩, own⟩

/-- The next request of the same kind reads the same rows, and the cache confirms them. -/
theorem Refreshes.settled_scope (refreshes : r.Refreshes typeName) (sound : c.Sound)
    (came : ∀ row ∈ (r.scope c).rows c.entityType all, ∀ key, c.entityType.keyIn? row = some key →
      ∃ record ∈ records, c.entityType.keyOf? record = some key)
    (merge : (r.scope c).merge c records = .ok ((handles, events), c'))
    (confirms : c'.Confirms (r.scope c) records) :
    c'.Confirms (r.scope c') records ∧
      (r.scope c').rows c.entityType all = (r.scope c).rows c.entityType all := by
  cases refreshes with
  | getSome | keys | getAll => exact ⟨confirms, rfl⟩
  | type =>
    by_cases synced : c.synced = true
    · have before : (refreshType typeName).scope c = .table := if_pos synced
      have after : (refreshType typeName).scope c' = .table := if_pos (confirms.synced before)
      rw [before] at confirms
      rw [before, after]
      exact ⟨confirms, rfl⟩
    · have before : (refreshType typeName).scope c = .keys c.keys := if_neg synced
      rw [before] at came merge confirms
      have after : (refreshType typeName).scope c' = .keys c'.keys :=
        if_neg (IdentityCache.synced_mergeFetched sound merge ▸ synced)
      rw [before, after]
      exact settled_keys sound came merge confirms

/-- Once rows of a table at rest were merged, the cache holds what the table has. -/
theorem Refreshes.settled (refreshes : r.Refreshes typeName) (sound : c.Sound)
    (rest : RowStore.AtRest d c.entityType all rows)
    (same : answer.Perm ((r.scope c).rows c.entityType all))
    (whole : r.scope c = .table → answer = all)
    (decoded : TableMapping.decodeRows ⟨c.entityType⟩ answer = .ok records)
    (merge : (r.scope c).merge c records = .ok ((handles, events), c')) :
    r.Settled all c' (r.answers c' records) := by
  have type : c'.entityType = c.entityType := (IdentityCache.merge_steps sound merge).entityType
  obtain ⟨back, forth⟩ := TableMapping.mem_decodeRows decoded
  have confirms := IdentityCache.confirms_of_merge sound (rest.decoded same decoded).1
    (fun record listed key carries => by
      obtain ⟨row, here, made⟩ := back record listed
      exact RefreshScope.covers_of_mem (same.mem_iff.1 here) (Row.keyOf?_decode made ▸ carries))
    merge
  obtain ⟨confirms, rows⟩ := refreshes.settled_scope sound (fun row listed key own => by
    obtain ⟨record, here, made⟩ := forth row (same.mem_iff.2 listed)
    exact ⟨record, here, (Row.keyOf?_decode made).trans own⟩) merge confirms
  obtain ⟨records', decoded', order⟩ := TableMapping.decodeRows_perm decoded same.symm
  refine ⟨records', ?_, confirms.perm order, refreshes.answers_congr ?_⟩
  · rw [type, rows]
    exact decoded'
  · rintro rfl
    cases whole rfl
    exact Except.ok.inj (decoded'.symm.trans decoded)

/-- What the first request makes of a session, if it succeeds. -/
theorem Refreshes.settles (refreshes : r.Refreshes typeName) (sound : s.Sound)
    (cached : s.caches.get? typeName = some c)
    (rest : RowStore.AtRest s.gateway.dialect c.entityType all s.gateway.rows)
    (run : r.run observed s = (.ok handles, s')) :
    ∃ rows c' events, Queried s.gateway.rows rows ∧ c'.entityType = c.entityType ∧
      r.Settled all c' handles ∧ s' = { s with
        gateway := { s.gateway with
          rows, roundTrips := s.gateway.roundTrips + (r.scope c).queries }
        caches := s.caches.insert typeName c'
        outbox := s.outbox ++ events } := by
  obtain ⟨answer, rows, asked, queried, same, whole⟩ := Gateway.reread_atRest rest (r.scope c)
  rw [refreshes.run_eq sound cached, Session.rereading, asked] at run
  cases decoded : TableMapping.decodeRows ⟨c.entityType⟩ answer with
  | error e => simp [decoded] at run
  | ok records =>
    cases merge : (r.scope c).merge c records with
    | error e => simp [decoded, merge] at run
    | ok merged =>
      obtain ⟨⟨_, events⟩, c'⟩ := merged
      simp only [decoded, merge, Prod.mk.injEq, Except.ok.injEq] at run
      obtain ⟨rfl, rfl⟩ := run
      have cacheSound := sound.caches _ c cached
      exact ⟨rows, c', events, queried, (IdentityCache.merge_steps cacheSound merge).entityType,
        refreshes.settled cacheSound rest same whole decoded merge, rfl⟩

/-- What the next request makes of it: each instance that is read counts one more revision, and
there is nothing to tell. -/
theorem Settled.run (settled : r.Settled all c handles) (refreshes : r.Refreshes typeName)
    (sound : s.Sound) (cached : s.caches.get? typeName = some c)
    (rest : RowStore.AtRest s.gateway.dialect c.entityType all s.gateway.rows)
    (observed : String → Bool) :
    ∃ rows c', Queried s.gateway.rows rows ∧ c.Reread (r.scope c).Covers c' ∧
      r.run observed s = (.ok handles, { s with
        gateway := { s.gateway with
          rows, roundTrips := s.gateway.roundTrips + (r.scope c).queries }
        caches := s.caches.insert typeName c' }) := by
  obtain ⟨records, decoded, confirms, rfl⟩ := settled
  obtain ⟨answer, rows, asked, queried, same, whole⟩ := Gateway.reread_atRest rest (r.scope c)
  obtain ⟨records', decoded', order⟩ := TableMapping.decodeRows_perm decoded same
  obtain ⟨once, numbers⟩ := rest.decoded same decoded'
  obtain ⟨_, c', merge, reread⟩ :=
    (confirms.perm order).merge (sound.caches _ c cached) once numbers
  have answers : r.answers c' records' = r.answers c records := by
    rw [answers_reread reread]
    refine refreshes.answers_congr ?_
    rintro rfl
    cases whole rfl
    exact Except.ok.inj (decoded'.symm.trans decoded)
  refine ⟨rows, c', queried, reread, ?_⟩
  rw [refreshes.run_eq sound cached, Session.rereading, asked, decoded']
  simp only [merge, answers, List.append_nil]

end Request

end IdentityMap
