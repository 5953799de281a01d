import IdentityMap.Proofs.Cache.Changes
import IdentityMap.Proofs.Session.Delete
import IdentityMap.Proofs.Session.Persist
/-!
# Events as the difference between two sessions

An operation on one type accounts for what it does (`Session.Accounts`) as long as no answer of the
row store brings a key twice. A change of a key that is not cached is the exception: it is told as
the difference between its row and the record that is written (`ModifyEnds.uncached`).
-/

namespace IdentityMap

open IdentityCache (KeysOnce changeBetween?)

variable {σ : Type} [RowStore σ]

/-- The statements that read rows of the type: by their keys, or the whole table. -/
inductive Sql.Dialect.ReadsRows (d : Sql.Dialect) (t : EntityType) : Sql.Statement → Prop
  | keyed {count : Nat} {s : Sql.Statement} (produced : d.selectKeys ⟨t⟩ count = .ok s) :
    ReadsRows d t s
  | whole : ReadsRows d t (d.selectAll ⟨t⟩)

/-- The row store brings no key twice, whichever rows of the type it is asked for next. -/
def Gateway.RepeatsNoKey (g : Gateway σ) (t : EntityType) : Prop :=
  ∀ statement, g.dialect.ReadsRows t statement → ∀ params answer next records,
    RowStore.query statement params g.rows = (.ok answer, next) →
    TableMapping.decodeRows ⟨t⟩ answer = .ok records → KeysOnce t records

namespace Session

variable {s s' : Session σ} {c c' : IdentityCache} {events : List Event}

/-- The events tell exactly what has become of the cached keys, once for each key. -/
structure Accounts (s s' : Session σ) (events : List Event) : Prop where
  once : (events.map fun e => (e.entityType.name, e.key)).Nodup
  tells : ∀ e, e ∈ events ↔ ∃ c c', s.caches.get? e.entityType.name = some c ∧
    s'.caches.get? e.entityType.name = some c' ∧ e.entityType = c.entityType ∧
    changeBetween? (c.get? e.key) (c'.get? e.key) = some e.change

omit [RowStore σ] in
theorem Accounts.of_caches (same : s'.caches = s.caches) : Accounts s s' [] where
  once := .nil
  tells e := by
    refine ⟨fun member => absurd member List.not_mem_nil, ?_⟩
    rintro ⟨c, c', before, after, _, differs⟩
    rw [same, before] at after
    cases after
    simp at differs

omit [RowStore σ] in
/-- Where one cache has changed, it is the changes of this cache that are to be told. -/
theorem Accounts.of_alters (alters : Alters s s' c.entityType.name c c' events)
    (accounts : c.Accounts c' events) : Accounts s s' events where
  once := by
    have named : events.map (fun e => (e.entityType.name, e.key))
        = (events.map (·.key)).map fun key => (c.entityType.name, key) := by
      rw [List.map_map]
      refine List.map_congr_left fun e listed => ?_
      rw [Function.comp_apply, ((accounts.tells e).1 listed).1]
    rw [named]
    exact List.pairwise_map.2 (accounts.once.imp fun differ same => differ (Prod.mk.inj same).2)
  tells e := by
    rw [accounts.tells e]
    constructor
    · rintro ⟨sameType, differs⟩
      rw [sameType]
      exact ⟨c, c', alters.cached, alters.get?_self, rfl, differs⟩
    · rintro ⟨d, d', before, after, sameType, differs⟩
      by_cases own : c.entityType.name = e.entityType.name
      · rw [← own, alters.cached] at before
        rw [← own, alters.get?_self] at after
        cases before
        cases after
        exact ⟨sameType, differs⟩
      · rw [alters.get?_of_ne own, before] at after
        cases after
        simp at differs

/-! ### Lookups -/

theorem keysOnce_fetchKeys {keys : List EntityKey} {records : List Record} {g g' : Gateway σ}
    (once : g.RepeatsNoKey c.entityType)
    (fetched : TableMapping.fetchKeys ⟨c.entityType⟩ keys g = (.ok records, g')) :
    KeysOnce c.entityType records := by
  rcases (TableMapping.fetchKeys_cases fetched).2 records rfl with ⟨_, rfl, _⟩ |
    ⟨rows, statement, produced, asked, decoded⟩
  · exact .nil
  · exact once _ (.keyed produced) _ _ _ _ asked decoded

theorem keysOnce_fetchAll {records : List Record} {g g' : Gateway σ}
    (once : g.RepeatsNoKey c.entityType)
    (fetched : TableMapping.fetchAll ⟨c.entityType⟩ g = (.ok records, g')) :
    KeysOnce c.entityType records := by
  obtain ⟨rows, asked, decoded⟩ := (TableMapping.fetchAll_cases fetched).2 records rfl
  exact once _ .whole _ _ _ _ asked decoded

theorem Ends.accounts (sound : s.Sound) {typeName : String} {o : Except Error (List Handle)}
    (once : ∀ n c, s.caches.get? n = some c → s.gateway.RepeatsNoKey c.entityType)
    (ends : Ends s s' typeName o) :
    ∃ events, s'.outbox = s.outbox ++ events ∧ Accounts s s' events := by
  cases ends with
  | failed _ looks => exact ⟨[], by simp [looks.outbox], .of_caches looks.caches⟩
  | served _ looks _ => exact ⟨[], by simp [looks.outbox], .of_caches looks.caches⟩
  | @fetched keys records c c' answered events _ _ merge onceKeys _ =>
    have cached := merge.alters.cached
    have onceRecords := keysOnce_fetchKeys (once _ c cached) merge.fetched
    have accounts := IdentityCache.mergeFetched_accounts (sound.caches _ c cached) onceKeys
      onceRecords merge.merged
    exact ⟨events, merge.alters.outbox, .of_alters merge.alters accounts⟩
  | @loaded records c c' answered events _ _ load _ =>
    have cached := load.alters.cached
    have onceRecords := keysOnce_fetchAll (once _ c cached) load.fetched
    have accounts := IdentityCache.mergeTable_accounts (sound.caches _ c cached) onceRecords
      load.merged
    exact ⟨events, load.alters.outbox, .of_alters load.alters accounts⟩

/-! ### Changes -/

theorem ClearEnds.accounts (sound : s.Sound) {o : Except Error Nat} (ends : ClearEnds s s' c o) :
    ∃ events, s'.outbox = s.outbox ++ events ∧ Accounts s s' events := by
  cases ends with
  | undeleted _ _ quiet => exact ⟨[], by simp [quiet.outbox], .of_caches quiet.caches⟩
  | deleted _ _ alters =>
    have accounts := IdentityCache.clear_accounts (sound.caches _ c alters.cached)
    exact ⟨_, alters.outbox, .of_alters alters accounts⟩

theorem CreateEnds.accounts (sound : s.Sound) {values : Record} {o : Except Error Handle}
    (ends : CreateEnds s s' c values o) :
    ∃ events, s'.outbox = s.outbox ++ events ∧ Accounts s s' events := by
  cases ends with
  | refused _ looks => exact ⟨[], by simp [looks.outbox], .of_caches looks.caches⟩
  | uninserted _ _ _ _ quiet => exact ⟨[], by simp [quiet.outbox], .of_caches quiet.caches⟩
  | inserted _ _ _ _ merged alters =>
    have accounts := IdentityCache.mergeRecord_accounts (sound.caches _ c alters.cached) merged
    exact ⟨_, alters.outbox, .of_alters alters accounts⟩

theorem keyOf?_changed (t : EntityType) (base values : Record) (key : EntityKey) :
    t.keyOf? (changed t base values key) = some key := by
  simp [changed]

/-- A change of a cached key is told as the change of its record. -/
theorem ModifyEnds.accounts (sound : s.Sound) {key : EntityKey} {values : Record} {i : Instance}
    {o : Except Error Handle} (found : c.get? key = some i)
    (ends : ModifyEnds s s' c key values o) :
    ∃ events, s'.outbox = s.outbox ++ events ∧ Accounts s s' events := by
  cases ends with
  | refused _ looks => exact ⟨[], by simp [looks.outbox], .of_caches looks.caches⟩
  | unwritten _ _ _ quiet => exact ⟨[], by simp [quiet.outbox], .of_caches quiet.caches⟩
  | unconfirmed _ _ _ _ quiet => exact ⟨[], by simp [quiet.outbox], .of_caches quiet.caches⟩
  | gone _ _ _ alters =>
    have accounts := IdentityCache.evict_accounts (sound.caches _ c alters.cached) key
    exact ⟨_, alters.outbox, .of_alters alters accounts⟩
  | written _ begun _ _ merged alters =>
    cases begun.base with
    | fetched _ _ missing _ _ =>
      rw [found] at missing
      cases missing
    | cached j present _ =>
      have accounts := IdentityCache.mergeChange_accounts (sound.caches _ c alters.cached) present
        (keyOf?_changed ..) merged
      exact ⟨_, alters.outbox, .of_alters alters accounts⟩

/-- A change of a key that is not cached tells nothing if it fails. If it succeeds, what is told is
how the record that is cached then differs from the row that was read. -/
theorem ModifyEnds.uncached (sound : s.Sound) {key : EntityKey} {values : Record}
    {o : Except Error Handle} (missing : c.get? key = none)
    (ends : ModifyEnds s s' c key values o) :
    (∃ e, o = .error e ∧ s'.outbox = s.outbox) ∨
    ∃ h row others g c' i, o = .ok h ∧
      TableMapping.fetchKeys ⟨c.entityType⟩ [key] s.gateway = (.ok (row :: others), g) ∧
      s'.caches.get? c.entityType.name = some c' ∧ c'.get? key = some i ∧
      s'.outbox = s.outbox ++ if Record.same i.record row then []
        else [⟨c.entityType, key, .updated row i.record⟩] := by
  cases ends with
  | refused e looks => exact .inl ⟨e, rfl, looks.outbox⟩
  | unwritten e _ _ quiet => exact .inl ⟨e, rfl, quiet.outbox⟩
  | unconfirmed e _ _ _ quiet => exact .inl ⟨e, rfl, quiet.outbox⟩
  | gone _ _ _ alters =>
    have events := IdentityCache.evict_events (sound.caches _ c alters.cached) key
    rw [missing] at events
    exact .inl ⟨_, rfl, by rw [alters.outbox, events]; simp⟩
  | @written t row met g events c' h begun _ _ merged alters =>
    cases begun.base with
    | cached _ present _ =>
      rw [missing] at present
      cases present
    | fetched _ others _ asked _ =>
      obtain ⟨key', carries, rfl, rfl, told⟩ := IdentityCache.mergeChange_eq_ok merged
      rw [keyOf?_changed] at carries
      cases carries
      have cacheSound := sound.caches _ c alters.cached
      have named : (c.putKeyed key (changed c.entityType row values key)).1.1.key = key := by
        rw [IdentityCache.putKeyed_fst]
        exact cacheSound.instanceAfter_key key _
      obtain ⟨i, found, same, _⟩ :=
        (IdentityCache.rewrites_putKeyed c key (changed c.entityType row values key)).put _
          (List.mem_singleton_self _)
      refine .inr ⟨_, row, others, _, _, i, rfl, asked, alters.get?_self, found, ?_⟩
      rw [alters.outbox, told, same, named]

end Session

end IdentityMap
