import IdentityMap.Proofs.Coherence.Schema
import IdentityMap.Proofs.Coherence.Writes
import IdentityMap.Proofs.Session.Request
/-!
# Coherent sessions

In a coherent session every cache mirrors the table of its type (`Session.Coherent`). A session
stays coherent while neither caches nor rows change, and when one cache changes along with its table
(`Session.Coherent.alters`); lookups, deletions and registrations are one or the other.
-/

namespace IdentityMap.Session

open Sql
open IdentityCache (Steps)

variable {σ : Type} [RowStore σ] {tables : σ → Tables} {types : EntityType → Prop}
  {s t s' : Session σ} {typeName : String} {c c' : IdentityCache} {events : List Event}

/-- The session is sound, and its caches mirror the tables behind its gateway. -/
structure Coherent (tables : σ → Tables) (types : EntityType → Prop) (s : Session σ) : Prop
    extends Sound s where
  typed : ∀ n c, s.caches.get? n = some c → types c.entityType
  keyed : Keyed types (tables s.gateway.rows)
  mirrors : ∀ n c, s.caches.get? n = some c →
    c.Mirrors ((tables s.gateway.rows).row? c.entityType.table)

namespace Coherent

omit [RowStore σ] in
theorem told (coherent : s.Coherent tables types) :
    Coherent tables types { s with outbox := [] } :=
  ⟨coherent.toSound.told, coherent.typed, coherent.keyed, coherent.mirrors⟩

omit [RowStore σ] in
/-- The caches are as before, and so are the rows. -/
theorem settled (coherent : s.Coherent tables types) (quiet : Quiet s s')
    (settled : Settled types (tables s.gateway.rows) (tables s'.gateway.rows)) :
    s'.Coherent tables types where
  toSound := coherent.toSound.quiet quiet
  typed := by
    rw [quiet.caches]
    exact coherent.typed
  keyed := settled.keyed coherent.keyed
  mirrors n c found := by
    rw [quiet.caches] at found
    rw [settled.row?]
    exact coherent.mirrors n c found

omit [RowStore σ] in
theorem quiet (coherent : s.Coherent tables types) (quiet : Quiet s s')
    (same : tables s'.gateway.rows = tables s.gateway.rows) : s'.Coherent tables types :=
  coherent.settled quiet (same ▸ .refl types _)

theorem looks (coherent : s.Coherent tables types) (hosts : Hosts tables types)
    (looks : Looks s s') : s'.Coherent tables types :=
  coherent.quiet looks.toQuiet (hosts.faithful.reads looks.reads)

/-- One cache changes along with the table of its type. -/
theorem alters (coherent : s.Coherent tables types) (hosts : Hosts tables types)
    (alters : Alters s s' typeName c c' events) (steps : Steps c c')
    {row?' : Stored → Option Cells}
    (changed : Changed (tables s.gateway.rows) (tables s'.gateway.rows) c.entityType.table row?')
    (mirrors : c'.Mirrors row?') : s'.Coherent tables types := by
  have typed : ∀ n d, s'.caches.get? n = some d → types d.entityType := by
    intro n d found
    by_cases same : typeName = n
    · subst same
      rw [alters.get?_self] at found
      cases found
      rw [steps.entityType]
      exact coherent.typed _ c alters.cached
    · rw [alters.get?_of_ne same] at found
      exact coherent.typed n d found
  refine ⟨coherent.toSound.alters alters steps, typed, changed.keyed coherent.keyed, ?_⟩
  intro n d found
  by_cases same : typeName = n
  · subst same
    rw [alters.get?_self] at found
    cases found
    rw [steps.entityType, changed.row?]
    exact mirrors
  · rw [alters.get?_of_ne same] at found
    -- types that share a table are one type, and one type has one name
    have other : d.entityType.table ≠ c.entityType.table := by
      intro shared
      have one := hosts.apart _ _ (coherent.typed n d found)
        (coherent.typed _ c alters.cached) shared
      have named := coherent.named n d found
      rw [one, coherent.named _ c alters.cached] at named
      exact same named
    rw [changed.others _ other]
    exact coherent.mirrors n d found

/-- A cache changes, but no row does. -/
theorem merges (coherent : s.Coherent tables types) (hosts : Hosts tables types)
    (alters : Alters s s' typeName c c' events) (steps : Steps c c')
    (same : tables s'.gateway.rows = tables s.gateway.rows)
    (mirrors : c'.Mirrors ((tables s.gateway.rows).row? c.entityType.table)) :
    s'.Coherent tables types :=
  coherent.alters hosts alters steps (same ▸ changed_refl _ _) mirrors

end Coherent

/-! ### Lookups -/

theorem Ends.coherent (coherent : s.Coherent tables types) (hosts : Hosts tables types)
    {o : Except Error (List Handle)} (ends : Ends s s' typeName o) :
    s'.Coherent tables types := by
  cases ends with
  | failed _ looks => exact coherent.looks hosts looks
  | served _ looks _ => exact coherent.looks hosts looks
  | @fetched _ _ c _ _ _ _ _ fetched _ _ =>
    have cached := fetched.alters.cached
    have sound := coherent.caches _ c cached
    have typed := coherent.typed _ c cached
    have brought := fetchKeys_brings hosts.faithful typed coherent.keyed fetched.fetched
    exact coherent.merges hosts fetched.alters
      (IdentityCache.mergeFetched_merged sound fetched.merged).steps
      (hosts.faithful.reads (TableMapping.fetchKeys_cases fetched.fetched).1)
      ((coherent.mirrors _ c cached).mergeFetched sound brought fetched.merged)
  | @loaded _ c _ _ _ _ _ loaded _ =>
    have cached := loaded.alters.cached
    have sound := coherent.caches _ c cached
    have typed := coherent.typed _ c cached
    have brought := fetchAll_brings hosts.faithful typed coherent.keyed loaded.fetched
    exact coherent.merges hosts loaded.alters
      (IdentityCache.mergeTable_merged sound loaded.merged).steps
      (hosts.faithful.reads (TableMapping.fetchAll_cases loaded.fetched).1)
      (.mergeTable sound brought loaded.merged)

/-! ### Deletions -/

theorem DeleteEnds.coherent (coherent : s.Coherent tables types) (hosts : Hosts tables types)
    {keys : List EntityKey} {o : Except Error Nat} (ends : DeleteEnds s s' c keys o)
    (cached : s.caches.get? c.entityType.name = some c) : s'.Coherent tables types := by
  have typed := coherent.typed _ c cached
  cases ends with
  | refused _ looks => exact coherent.looks hosts looks
  | nothing _ same => exact same ▸ coherent
  | @undeleted t _ looks failed quiet =>
    have before := coherent.looks hosts looks
    have same := deleteRows_outcome hosts typed before.keyed failed
    exact coherent.quiet quiet (same.trans (hosts.faithful.reads looks.reads))
  | @deleted t _ _ looks deleted alters =>
    have before := coherent.looks hosts looks
    have same := hosts.faithful.reads looks.reads
    have changed := deleteRows_outcome hosts typed before.keyed deleted
    rw [same] at changed
    exact coherent.alters hosts alters (IdentityCache.steps_removeAll keys c) changed
      ((coherent.mirrors _ c cached).removeAll fun _ => rfl)

theorem ClearEnds.coherent (coherent : s.Coherent tables types) (hosts : Hosts tables types)
    {o : Except Error Nat} (ends : ClearEnds s s' c o) : s'.Coherent tables types := by
  cases ends with
  | undeleted _ failed quiet => exact coherent.quiet quiet (deleteAllRows_outcome hosts failed)
  | deleted _ deleted alters =>
    exact coherent.alters hosts alters
      ((IdentityCache.steps_removeAll c.keys c).trans (.single (.mark true)))
      (deleteAllRows_outcome hosts deleted) (IdentityCache.mirrors_clear c)

/-! ### Registering -/

omit [RowStore σ] in
theorem Registers.coherent (coherent : s.Coherent tables types) {t : EntityType} (typed : types t)
    (registers : Registers s s' t)
    (settled : Settled types (tables s.gateway.rows) (tables s'.gateway.rows)) :
    s'.Coherent tables types := by
  have caches : ∀ n c, s'.caches.get? n = some c → c = .new t ∨ s.caches.get? n = some c := by
    intro n c found
    rw [registers.caches] at found
    by_cases same : t.name = n
    · subst same
      rw [OrderedMap.get?_insert_self] at found
      exact .inl (Option.some.inj found).symm
    · rw [OrderedMap.get?_insert_of_ne _ _ same] at found
      exact .inr found
  refine ⟨(registers.sound coherent.toSound).1, ?_, settled.keyed coherent.keyed, ?_⟩
  · intro n c found
    rcases caches n c found with rfl | found
    · exact typed
    · exact coherent.typed n c found
  · intro n c found
    rw [settled.row?]
    rcases caches n c found with rfl | found
    · exact IdentityCache.mirrors_new t _
    · exact coherent.mirrors n c found

theorem RegisterEnds.settled (hosts : Hosts tables types) {t : EntityType} (typed : types t)
    {o : Except Error Unit} (ends : RegisterEnds s s' t o) :
    Settled types (tables s.gateway.rows) (tables s'.gateway.rows) := by
  cases ends with
  | refused _ same => exact same ▸ .refl types _
  | uncreated _ failed _ => exact createSchema_settled hosts typed failed
  | created _ created _ => exact createSchema_settled hosts typed created
  | enrolled _ same _ => exact same ▸ .refl types _

theorem RegisterEnds.coherent (coherent : s.Coherent tables types) (hosts : Hosts tables types)
    {t : EntityType} (typed : types t) {o : Except Error Unit} (ends : RegisterEnds s s' t o) :
    s'.Coherent tables types := by
  have settled := ends.settled hosts typed
  rcases ends.quiet_or_registers with quiet | registers
  · exact coherent.settled quiet settled
  · exact registers.coherent coherent typed settled

end IdentityMap.Session
