import IdentityMap.Proofs.Rows
import IdentityMap.Proofs.Store.Audience
import IdentityMap.Proofs.Store.KeyedLookup
/-!
# Deletions by key

A deletion reads back the rows of keys that are not cached, where triggers wait for them, and then
deletes the rows of all its keys with one statement (`Session.deleteKeys_run`). What it tells of a
key is what was known of it before: its cached record, or else its row. So every known row is told
of once (`Store.deleteKeys_tells`), provided that the row store answers for the keys that it was
asked for, and for none of them twice (`Gateway.AnswersOnce`).
-/

namespace IdentityMap

section Sessions

variable {σ : Type} [RowStore σ]

/-! ### Runs -/

/-- Delete the rows with some keys: nothing is sent if there are none, and one statement otherwise,
with the keys as its parameters. -/
def Gateway.wipe (t : EntityType) (keys : List EntityKey) (g : Gateway σ) :
    Except Error Nat × Gateway σ :=
  if keys = [] then (.ok 0, g)
  else
    let answer := RowStore.execute ((KeyList.delete keys).call g.dialect ⟨t⟩).statement
      (keys.map EntityKey.toValue) g.rows
    (answer.1, { g with rows := answer.2, roundTrips := g.roundTrips + 1 })

theorem TableMapping.deleteRows_wipe (t : EntityType) (keys : List EntityKey) (g : Gateway σ) :
    deleteRows ⟨t⟩ keys g = g.wipe t keys := by
  unfold deleteRows Gateway.wipe
  split
  · rfl
  · rename_i some
    rw [Access.dialect_bind, deleteKeys_some g.dialect some, Access.ofExcept_ok_bind]
    rfl

/-- The keys whose rows a deletion reads back. -/
def IdentityCache.unknown (c : IdentityCache) (observed : Bool) (keys : List EntityKey) :
    List EntityKey :=
  if observed then c.wanted keys .cacheFirst else []

namespace Session

variable {s s' : Session σ} {c : IdentityCache} {typeName : String}

omit [RowStore σ] in
/-- A change of a cache that yields a result is made. -/
theorem changeCache_eq {α : Type} (cached : s.caches.get? typeName = some c)
    {change : IdentityCache → Except Error ((α × List Event) × IdentityCache)} {a : α}
    {events : List Event} {c' : IdentityCache} (changed : change c = .ok ((a, events), c')) :
    Work.changeCache typeName change s = (.ok a, { s with
      caches := s.caches.insert typeName c'
      outbox := s.outbox ++ events }) := by
  unfold Work.changeCache
  rw [Work.cache_eq_ok.2 cached]
  simp only [Except.bind, changed]

/-- Reading back is the lookup of what is not known. -/
theorem readBack_bind {α : Type} (c : IdentityCache) (observed : Bool) (keys : List EntityKey)
    (f : List Record → Work σ α) (s : Session σ) :
    (if (c.partition (distinct keys)).2 ≠ [] ∧ observed = true then
        Work.access (TableMapping.fetchKeys ⟨c.entityType⟩ (c.partition (distinct keys)).2) >>= f
      else pure [] >>= f) s =
      let asked := s.gateway.lookUp c.entityType (c.unknown observed keys)
      match asked.1 with
      | .error e => (.error e, { s with gateway := asked.2 })
      | .ok readBack => f readBack { s with gateway := asked.2 } := by
  have misses : (c.partition (distinct keys)).2 = c.wanted keys .cacheFirst :=
    c.planLookup_fetch keys .cacheFirst
  rw [misses]
  by_cases asks : c.wanted keys .cacheFirst ≠ [] ∧ observed = true
  · have unknown : c.unknown observed keys = c.wanted keys .cacheFirst := if_pos asks.2
    rw [if_pos asks, unknown]
    rcases asked : s.gateway.lookUp c.entityType (c.wanted keys .cacheFirst) with ⟨e | readBack, g⟩
    · exact bind_of_error (Work.access_eq ((TableMapping.fetchKeys_lookUp ..).trans asked))
    · exact bind_of_ok (Work.access_eq ((TableMapping.fetchKeys_lookUp ..).trans asked))
  · have unknown : c.unknown observed keys = [] := by
      unfold IdentityCache.unknown
      split
      · rename_i waits
        exact not_not.1 fun some => asks ⟨some, waits⟩
      · rfl
    rw [if_neg asks, unknown]
    rfl

/-- A deletion asks for what it does not know, deletes the rows, and removes the keys. -/
theorem deleteKeys_run (sound : s.Sound) (cached : s.caches.get? typeName = some c)
    (observed : Bool) (keys : List EntityKey) :
    let asked := s.gateway.lookUp c.entityType (c.unknown observed keys)
    let wiped := asked.2.wipe c.entityType (distinct keys)
    deleteKeys observed typeName keys s =
      match asked.1, wiped.1 with
      | .error e, _ => (.error e, { s with gateway := asked.2 })
      | .ok _, .error e => (.error e, { s with gateway := wiped.2 })
      | .ok readBack, .ok n => (.ok n, {
          s with
          gateway := wiped.2
          caches := s.caches.insert typeName (IdentityCache.removeAll (distinct keys) c).2
          outbox := s.outbox ++ deletions c readBack (distinct keys) }) := by
  unfold deleteKeys
  rw [bind_of_ok (sound.resolve_ok cached)]
  dsimp only
  split
  · rename_i none
    have nothing : c.unknown observed keys = [] := by
      unfold IdentityCache.unknown IdentityCache.wanted
      split <;> simp [none]
    rw [nothing, none]
    simp only [Gateway.lookUp, Gateway.wipe, if_true, deletions, List.filterMap_nil,
      List.append_nil, IdentityCache.removeAll, OrderedMap.insert_of_get? cached]
    rfl
  · rw [readBack_bind]
    rcases s.gateway.lookUp c.entityType (c.unknown observed keys) with ⟨e | readBack, g⟩
    · rfl
    have wipes := TableMapping.deleteRows_wipe c.entityType (distinct keys) g
    dsimp only
    rcases wiped : g.wipe c.entityType (distinct keys) with ⟨e | n, g'⟩
    · exact bind_of_error (Work.access_eq (s := { s with gateway := g }) (wipes.trans wiped))
    · rw [bind_of_ok (Work.access_eq (s := { s with gateway := g }) (wipes.trans wiped))]
      exact bind_of_ok (changeCache_eq (s := { s with gateway := g' }) cached rfl)

/-- What a deletion that succeeds has asked for and done. -/
theorem deleteKeys_ok (sound : s.Sound) {observed : Bool} {keys : List EntityKey} {n : Nat}
    (run : deleteKeys observed typeName keys s = (.ok n, s')) :
    ∃ c readBack, s.caches.get? typeName = some c ∧
      let asked := s.gateway.lookUp c.entityType (c.unknown observed keys)
      asked.1 = .ok readBack ∧ asked.2.wipe c.entityType (distinct keys) = (.ok n, s'.gateway) ∧
      s'.caches = s.caches.insert typeName (IdentityCache.removeAll (distinct keys) c).2 ∧
      s'.outbox = s.outbox ++ deletions c readBack (distinct keys) := by
  rcases deleteKeys_cases sound run with ⟨e, failed, -⟩ | ⟨c, cached, -, -⟩
  · cases failed
  rw [deleteKeys_run sound cached] at run
  rcases asked : s.gateway.lookUp c.entityType (c.unknown observed keys) with ⟨e | readBack, g⟩
  · rw [asked] at run
    cases run
  rcases wiped : g.wipe c.entityType (distinct keys) with ⟨e | m, g'⟩
  · simp only [asked, wiped] at run
    cases run
  · simp only [asked, wiped] at run
    cases run
    exact ⟨c, readBack, cached, by rw [asked], by rw [asked, wiped], rfl, rfl⟩

/-- A deletion that succeeds has sent a query for what it does not know and the statement that
deletes. -/
theorem deleteKeys_calls {s s' : Session (Logged σ)} (sound : s.Sound) {observed : Bool}
    {keys : List EntityKey} {n : Nat} (cached : s.caches.get? typeName = some c)
    (run : deleteKeys observed typeName keys s = (.ok n, s')) :
    s'.gateway.rows.calls = s.gateway.rows.calls
      ++ (KeyList.read (c.unknown observed keys)).calls s.gateway.dialect ⟨c.entityType⟩
      ++ (KeyList.delete (distinct keys)).calls s.gateway.dialect ⟨c.entityType⟩ := by
  obtain ⟨c', readBack, again, -, wiped, -⟩ := deleteKeys_ok sound run
  obtain rfl : c = c' := Option.some.inj (cached.symm.trans again)
  have calls := TableMapping.deleteRows_logged (m := ⟨c.entityType⟩) (distinct keys)
    (s.gateway.lookUp c.entityType (c.unknown observed keys)).2
  rw [TableMapping.deleteRows_wipe, wiped, ← TableMapping.fetchKeys_lookUp,
    TableMapping.fetchKeys_logged, TableMapping.fetchKeys_dialect] at calls
  exact calls

end Session

/-- An answer about some keys has at most one row for each of them and no other row. -/
def Gateway.AnswersOnce (t : EntityType) (keys : List EntityKey) (g : Gateway σ) : Prop :=
  ∀ records, (g.lookUp t keys).1 = .ok records →
    ∃ found : List EntityKey, records.map t.keyOf? = found.map some ∧ found.Nodup ∧ found ⊆ keys

end Sessions

/-! ### What is known of a key -/

namespace IdentityCache

variable {c : IdentityCache} {readBack : List Record} {keys : List EntityKey}

/-- What was known of a key before its row was deleted: the cached record, or else the row that came
back for it. -/
def before? (c : IdentityCache) (readBack : List Record) (key : EntityKey) : Option Record :=
  match c.get? key with
  | some i => some i.record
  | none => readBack.find? fun r => c.entityType.keyOf? r = some key

/-- Where rows came back once, and only of keys that are not cached, it does not matter which of
them is looked at first. -/
theorem lastKnown?_eq {found : List EntityKey}
    (carried : readBack.map c.entityType.keyOf? = found.map some) (once : found.Nodup)
    (asked : found ⊆ c.wanted keys .cacheFirst) (key : EntityKey) :
    Session.lastKnown? c readBack key = c.before? readBack key := by
  have apart : readBack.Pairwise fun r r' => c.entityType.keyOf? r ≠ c.entityType.keyOf? r' :=
    List.pairwise_map.1 (carried ▸ List.Nodup.map (Option.some_injective _) once)
  unfold Session.lastKnown? before?
  cases cached : c.get? key with
  | some i =>
    have none : readBack.reverse.find? (fun r => c.entityType.keyOf? r = some key) = none := by
      refine List.find?_eq_none.2 fun r listed own => ?_
      have brought := List.mem_map_of_mem (f := c.entityType.keyOf?) (List.mem_reverse.1 listed)
      rw [of_decide_eq_true own, carried] at brought
      -- only rows of keys that are not cached were asked for
      have sought : key ∈ c.wanted keys .cacheFirst := asked (by simpa using brought)
      simp [wanted, cached] at sought
    simp [none]
  | none =>
    rw [Option.map_none, Option.or_none]
    cases last : readBack.reverse.find? fun r => c.entityType.keyOf? r = some key with
    | none =>
      refine (List.find?_eq_none.2 fun r listed => ?_).symm
      exact List.find?_eq_none.1 last r (List.mem_reverse.2 listed)
    | some r =>
      have own : c.entityType.keyOf? r = some key := by simpa using List.find?_some last
      refine (find?_of_apart apart (List.mem_reverse.1 (List.mem_of_find?_eq_some last))
        (decide_eq_true own) fun r' same => ?_).symm
      rw [own, of_decide_eq_true same]

/-- What a deletion tells, key by key. -/
theorem deletions_eq {found : List EntityKey}
    (carried : readBack.map c.entityType.keyOf? = found.map some) (once : found.Nodup)
    (asked : found ⊆ c.wanted keys .cacheFirst) :
    Session.deletions c readBack (distinct keys) = (distinct keys).filterMap fun key =>
      (c.before? readBack key).map fun r => ⟨c.entityType, key, .deleted (some r)⟩ :=
  List.filterMap_congr fun key _ => by rw [lastKnown?_eq carried once asked]

end IdentityCache

/-! ### What is told -/

namespace Store

open Session

variable {σ τ : Type} [RowStore σ] [TriggerHost τ]

/-- The store answers as its session does. -/
theorem deleteKeys_session (typeName : String) (keys : List EntityKey) (s : Store σ τ) :
    let work := Session.deleteKeys (s.dispatcher.hasTriggers typeName) typeName keys s.session
    (deleteKeys typeName keys s).1 = work.1 ∧
      (deleteKeys typeName keys s).2.session = { work.2 with outbox := [] } ∧
      s.dispatched (.deleteKeys typeName keys) = work.2.outbox :=
  ⟨rfl, ask_session (.deleteKeys typeName keys) s, rfl⟩

variable {s s' : Store (Logged σ) (Journal τ)} {typeName : String} {keys : List EntityKey}

omit [RowStore σ] [TriggerHost τ] in
/-- Rows are read back where somebody is told of them. -/
theorem unknown_eq (made : s.dispatcher.Made) (c : IdentityCache) (keys : List EntityKey) :
    c.unknown (s.dispatcher.hasTriggers typeName) keys
      = if s.dispatcher.targets typeName = [] then [] else c.wanted keys .cacheFirst := by
  unfold IdentityCache.unknown
  by_cases nobody : s.dispatcher.targets typeName = []
  · rw [if_pos nobody, if_neg fun observed => (made.hasTriggers_iff typeName).1 observed nobody]
  · rw [if_neg nobody, if_pos ((made.hasTriggers_iff typeName).2 nobody)]

/-- In any state, with any keys and whatever triggers are registered: a deletion that succeeds
leaves none of its keys cached, and everything else that is cached as it is. It has deleted the rows
with one statement over its keys, each once in first-seen order, or without keys sent nothing; only
if some trigger stands for the type, it has asked for the rows of the keys that were not cached
first. Each such trigger was then told once of every key of which something was known, the cached
record or else the row, in first-seen order, and of no other key. -/
theorem deleteKeys_tells (reachable : s.Reachable)
    (answers : ∀ c, s.session.caches.get? typeName = some c →
      s.dispatcher.targets typeName ≠ [] →
        s.session.gateway.AnswersOnce c.entityType (c.wanted keys .cacheFirst))
    {n : Nat} (ran : deleteKeys typeName keys s = (.ok n, s')) :
    ∃ c c' readBack rounds,
      s.session.caches.get? typeName = some c ∧ s'.session.caches.get? typeName = some c' ∧
      c.entityType.name = typeName ∧
      (∀ key ∈ keys, c'.get? key = none) ∧ (∀ key, key ∉ keys → c'.get? key = c.get? key) ∧
      (∀ other, other ≠ typeName →
        s'.session.caches.get? other = s.session.caches.get? other) ∧
      (let asked := if s.dispatcher.targets typeName = [] then [] else c.wanted keys .cacheFirst
       (s.session.gateway.lookUp c.entityType asked).1 = .ok readBack ∧
        s'.session.gateway.rows.calls = s.session.gateway.rows.calls
          ++ (KeyList.read asked).calls s.session.gateway.dialect ⟨c.entityType⟩
          ++ (KeyList.delete (distinct keys)).calls s.session.gateway.dialect ⟨c.entityType⟩) ∧
      (keys = [] → s'.session.gateway.rows.calls = s.session.gateway.rows.calls) ∧
      Told s s' ((distinct keys).filterMap fun key => (c.before? readBack key).map fun r =>
        ⟨c.entityType, key, .deleted (some r)⟩) rounds := by
  obtain ⟨rounds, told⟩ := ask_told reachable.made (.deleteKeys typeName keys)
  obtain ⟨outcome, after, dispatched⟩ := deleteKeys_session typeName keys s
  rw [show (s.ask (.deleteKeys typeName keys)).2 = (deleteKeys typeName keys s).2 from rfl,
    dispatched] at told
  rcases work : Session.deleteKeys (s.dispatcher.hasTriggers typeName) typeName keys s.session with
    ⟨o, u⟩
  rw [work] at outcome after told
  rw [ran] at outcome after told
  obtain rfl : .ok n = o := outcome
  obtain ⟨c, readBack, cached, found, -, caches, outbox⟩ := deleteKeys_ok reachable.sound work
  have calls := Session.deleteKeys_calls reachable.sound cached work
  rw [unknown_eq reachable.made] at found calls
  -- without triggers no row has come back, and the promise of the row store is not needed
  obtain ⟨back, carried, once, sought⟩ : ∃ found : List EntityKey,
      readBack.map c.entityType.keyOf? = found.map some ∧ found.Nodup ∧
        found ⊆ c.wanted keys .cacheFirst := by
    by_cases nobody : s.dispatcher.targets typeName = []
    · rw [if_pos nobody] at found
      cases found
      exact ⟨[], rfl, .nil, List.nil_subset _⟩
    · rw [if_neg nobody] at found
      exact answers c cached nobody readBack found
  rw [outbox, reachable.outbox, List.nil_append,
    IdentityCache.deletions_eq carried once sought] at told
  refine ⟨c, (IdentityCache.removeAll (distinct keys) c).2, readBack, rounds, cached, ?_,
    reachable.sound.named typeName c cached, ?gone, ?kept, ?others, ⟨found, ?_⟩, ?nothing, told⟩
  · rw [after]
    exact caches ▸ OrderedMap.get?_insert_self _ _ _
  case gone =>
    intro key listed
    rw [IdentityCache.get?_removeAll, if_pos (mem_distinct.2 listed)]
  case kept =>
    intro key other
    rw [IdentityCache.get?_removeAll, if_neg (mem_distinct.not.2 other)]
  case others =>
    intro other differs
    rw [after]
    exact caches ▸ OrderedMap.get?_insert_of_ne _ _ differs.symm
  · rw [after]
    exact calls
  case nothing =>
    rintro rfl
    have none : c.wanted [] .cacheFirst = [] := rfl
    rw [none, ite_self] at calls
    rw [after]
    exact calls.trans ((List.append_nil _).trans (List.append_nil _))

end Store

namespace Sample

/-- A store that has just been opened, with a log of the calls to its row store and a journal of the
calls of its triggers. -/
def watched (replies : List Reply) : Store (Logged Script) (Journal Assorted) where
  session := {
    settings := { createTables := false }
    gateway := { dialect := Sql.Dialect.ansi, rows := ⟨{ replies := replies }, []⟩ } }
  host := ⟨⟨[]⟩, []⟩

/-- The first gauge is cached, and one trigger stands for every event and one for gauges. The row
store has the second gauge, and not the third. -/
def guarded : Store (Logged Script) (Journal Assorted) :=
  (watched [.rows [row 1 5], .rows [row 2 6], .count 2]).after [.request (.register gauge),
    .request (.getSome "Gauge" [.int 1] .forceRefresh), .addGlobalTrigger ⟨0, "audit"⟩,
    .addTrigger "Gauge" ⟨1, "mirror"⟩]

theorem reachable_guarded : guarded.Reachable := ⟨Sql.Dialect.ansi, { createTables := false },
  ⟨{ replies := [.rows [row 1 5], .rows [row 2 6], .count 2] }, []⟩, ⟨⟨[]⟩, []⟩, _, _, rfl, rfl⟩

end Sample

open Sample in
/-- The second gauge is deleted with the values of its row, the first with those that are cached, and
of the third nothing is told. The row store is asked for what is not cached. -/
theorem Store.deleteKeys_tells_gauges :
    let keys : List EntityKey := [.int 2, .int 1, .int 3, .int 2, .int 1]
    let deleted (id : Int64) (values : Record) : Event := ⟨gauge, .int id, .deleted (some values)⟩
    let call := KeyList.call guarded.session.gateway.dialect ⟨gauge⟩
    let later := (deleteKeys "Gauge" keys guarded).2
    (deleteKeys "Gauge" keys guarded).1 = .ok 2 ∧
      later.session.gateway.rows.calls = guarded.session.gateway.rows.calls
        ++ [call (.read [.int 2, .int 3]), call (.delete [.int 2, .int 1, .int 3])] ∧
      (∃ calls, later.host.calls = guarded.host.calls ++ calls ∧
        calls.map (fun call => (call.trigger, call.event)) = [
          (⟨0, "audit"⟩, deleted 2 (level 2 6)), (⟨1, "mirror"⟩, deleted 2 (level 2 6)),
          (⟨0, "audit"⟩, deleted 1 (level 1 5)), (⟨1, "mirror"⟩, deleted 1 (level 1 5))]) ∧
      ∃ c', later.session.caches.get? "Gauge" = some c' ∧ c'.get? (.int 1) = none := by
  intro keys deleted call later
  have seen : (guarded.session.caches.get? "Gauge").map
      (fun c => (c.entityType, c.wanted keys .cacheFirst)) = some (gauge, [.int 2, .int 3]) := by
    decide +kernel
  have known : (guarded.session.caches.get? "Gauge").map
      (fun c => (distinct keys).map (c.before? [level 2 6]))
        = some [some (level 2 6), some (level 1 5), none] := by decide +kernel
  have response : (guarded.session.gateway.lookUp gauge [.int 2, .int 3]).1 = .ok [level 2 6] := by
    decide +kernel
  have stand : guarded.dispatcher.triggersIn .every = [⟨0, "audit"⟩] ∧
      guarded.dispatcher.triggersIn (.ofType "Gauge") = [⟨1, "mirror"⟩] := by decide +kernel
  have answers : ∀ c, guarded.session.caches.get? "Gauge" = some c →
      guarded.dispatcher.targets "Gauge" ≠ [] →
        guarded.session.gateway.AnswersOnce c.entityType (c.wanted keys .cacheFirst) := by
    intro c cached _ records answered
    rw [cached] at seen
    obtain ⟨type, wanted⟩ := Prod.mk.inj (Option.some.inj seen)
    rw [type, wanted, response] at answered
    cases answered
    rw [type, wanted]
    exact ⟨[.int 2], by decide +kernel, by simp, by simp⟩
  have done : (deleteKeys "Gauge" keys guarded).1 = .ok 2 := by decide +kernel
  obtain ⟨c, c', readBack, rounds, cached, left, -, gone, -, -, ⟨asked, calls⟩, -, told⟩ :=
    deleteKeys_tells reachable_guarded answers (Prod.ext done rfl)
  rw [cached] at seen known
  obtain ⟨type, wanted⟩ := Prod.mk.inj (Option.some.inj seen)
  have somebody : guarded.dispatcher.targets "Gauge" ≠ [] := by decide +kernel
  rw [if_neg somebody, type, wanted] at calls asked
  obtain rfl : [level 2 6] = readBack := Except.ok.inj (response.symm.trans asked)
  have mute : TriggerHost.Mute Assorted := fun _ _ _ => rfl
  have once : distinct keys = [.int 2, .int 1, .int 3] := by decide +kernel
  have events : rounds.map (·.2) = [deleted 2 (level 2 6), deleted 1 (level 1 5)] := by
    have before := Option.some.inj known
    rw [once] at before
    obtain ⟨second, first, third⟩ : _ ∧ _ ∧ _ := by simpa using before
    rw [told.events, once, type]
    simp only [List.filterMap_cons, List.filterMap_nil, second, first, third, Option.map, deleted]
  have same : rounds
      = [deleted 2 (level 2 6), deleted 1 (level 1 5)].map (guarded.dispatcher, ·) := by
    rw [← events, List.map_map]
    conv_lhs => rw [← List.map_id rounds]
    exact List.map_congr_left fun round listed => Prod.ext (told.fixed mute round listed) rfl
  obtain ⟨invoked, appended, triggers⟩ := told.calls
  refine ⟨done, ?_, ⟨invoked, appended, ?_⟩, c', left, gone (.int 1) (by simp [keys])⟩
  · rw [calls, List.append_assoc, once]
    rfl
  · have named (id : Int64) (values : Record) : (deleted id values).typeName = "Gauge" := rfl
    rw [triggers, same]
    simp [named, stand]

end IdentityMap
