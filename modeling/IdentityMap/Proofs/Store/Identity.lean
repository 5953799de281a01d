import IdentityMap.Proofs.Store.Operation
/-!
# Identity over whole runs

A handle names one instance for good, so identity is a statement about handles. Through any run,
with any row store behind it:

* an instance stands under its own key, which is the key that its record carries
  (`Store.cached?_keyed`);
* a key that stays cached keeps its instance (`Store.cached?_after`);
* whatever an operation answers with is what is cached under its key (`Store.cached?_answered`);
* an instance that is no longer cached reads the same for good, and is never cached again
  (`Store.retired_after`).
-/

namespace IdentityMap.Store

open Session
open IdentityCache (Follows)

variable {σ τ : Type} [RowStore σ] [TriggerHost τ] {s : Store σ τ} {typeName : String}
  {key : EntityKey} {h : Handle}

/-- The instance that is cached under a key. -/
def cached? (s : Store σ τ) (typeName : String) (key : EntityKey) : Option Handle :=
  (s.session.caches.get? typeName).bind fun c => (c.get? key).map c.handleOf

omit [RowStore σ] [TriggerHost τ] in
theorem cached?_eq_some : s.cached? typeName key = some h ↔
    ∃ c i, s.session.caches.get? typeName = some c ∧ c.get? key = some i ∧ c.handleOf i = h := by
  simp [cached?, Option.bind_eq_some_iff, Option.map_eq_some_iff]

omit [RowStore σ] [TriggerHost τ] in
theorem cached?_of_holds (held : s.session.Holds h) : s.cached? h.typeName h.key = some h := by
  obtain ⟨c, found, i, cached, same⟩ := held
  exact cached?_eq_some.2 ⟨c, i, found, cached, same⟩

omit [RowStore σ] [TriggerHost τ] in
/-- A cached instance stands under the key that its record carries. -/
theorem cached?_keyed (sound : s.session.Sound) (cached : s.cached? typeName key = some h) :
    h.typeName = typeName ∧ h.key = key ∧ ∃ c i, s.session.caches.get? typeName = some c ∧
      s.read? h = some i ∧ i.key = key ∧ c.entityType.keyOf? i.record = some key := by
  obtain ⟨c, i, found, present, rfl⟩ := cached?_eq_some.1 cached
  have named : c.typeName = typeName := sound.named _ c found
  obtain ⟨same, carries⟩ := (sound.caches _ c found).keyed key i present
  refine ⟨named, same, c, i, found, ?_, same, carries⟩
  have reads : c.read? (c.handleOf i) = some i :=
    IdentityCache.read?_of_cached (by rw [← same] at present; exact present) rfl
  show (s.session.caches.get? c.typeName).bind _ = _
  rw [named, found]
  exact reads

theorem cached?_run (sound : s.session.Sound) {op : Operation} {h' : Handle}
    (before : s.cached? typeName key = some h)
    (after : (op.run s).2.cached? typeName key = some h') : h' = h := by
  obtain ⟨c, i, found, present, rfl⟩ := cached?_eq_some.1 before
  obtain ⟨c', i', found', present', rfl⟩ := cached?_eq_some.1 after
  obtain ⟨c₁, found₁, _, stable⟩ := op.run_stable sound _ c found
  rw [found'] at found₁
  cases found₁
  exact stable key i i' present present'

/-- A key that is cached all along keeps its instance. -/
theorem cached?_after (sound : s.session.Sound) {ops : List Operation}
    (cached : s.cached? typeName key = some h)
    (stays : ∀ earlier, earlier <+: ops → (s.after earlier).cached? typeName key ≠ none) :
    (s.after ops).cached? typeName key = some h := by
  induction ops generalizing s with
  | nil => exact cached
  | cons op rest ih =>
    have next : (op.run s).2.cached? typeName key = some h := by
      cases present : (op.run s).2.cached? typeName key with
      | none => exact absurd present (stays [op] ⟨rest, rfl⟩)
      | some h' => rw [cached?_run sound cached present]
    refine ih (op.run_sound sound) next fun earlier start => ?_
    exact stays (op :: earlier) ((List.prefix_cons_inj op).2 start)

/-- What an operation answers with is cached when it does. -/
theorem cached?_answered (sound : s.session.Sound) {op : Operation} {handles : List Handle}
    (answered : (op.run s).1 = .ok handles) (returned : h ∈ handles) :
    (op.run s).2.cached? h.typeName h.key = some h := by
  have silent : (∀ r, op ≠ .request r) → handles = [] := by
    intro composite
    cases op with
    | request r => exact absurd rfl (composite r)
    | dropGlobalTrigger t => exact (Except.ok.inj answered).symm
    | dropTrigger typeName t => exact (Except.ok.inj answered).symm
    | takeFailures => exact (Except.ok.inj answered).symm
    | _ =>
      unfold Operation.run at answered
      dsimp only at answered
      revert answered
      generalize Prod.fst _ = o
      intro answered
      cases o <;> cases answered
      rfl
  by_cases single : ∃ r, op = .request r
  · obtain ⟨r, rfl⟩ := single
    exact cached?_of_holds ((ask_sound sound r).2.2 handles answered h returned)
  · rw [silent fun r eq => single ⟨r, eq⟩] at returned
    cases returned

/-! ### Removed instances -/

/-- The caches of a later state follow those of an earlier one. -/
theorem after_follows (sound : s.session.Sound) (ops : List Operation) {c : IdentityCache}
    (found : s.session.caches.get? typeName = some c) :
    ∃ c', (s.after ops).session.caches.get? typeName = some c' ∧ Follows c c' := by
  induction ops generalizing s c with
  | nil => exact ⟨c, found, .refl c⟩
  | cons op rest ih =>
    obtain ⟨c₁, found₁, steps, _⟩ := op.run_stable sound _ c found
    obtain ⟨c', found', follows⟩ := ih (op.run_sound sound) found₁
    exact ⟨c', found', steps.follows.trans follows⟩

/-- An instance that has left the cache reads the same ever after and is never cached again. -/
theorem retired_after (sound : s.session.Sound) {ops : List Operation}
    (cached : s.cached? typeName key = some h)
    (left : (s.after ops).cached? typeName key ≠ some h) :
    ∃ i, (s.after ops).read? h = some i ∧ ∀ later, (s.after (ops ++ later)).read? h = some i ∧
      (s.after (ops ++ later)).cached? typeName key ≠ some h := by
  obtain ⟨c, i, found, present, rfl⟩ := cached?_eq_some.1 cached
  have named : c.typeName = typeName := sound.named _ c found
  have keyed := ((sound.caches _ c found).keyed key i present).1
  obtain ⟨c₁, found₁, follows₁⟩ := after_follows sound ops found
  have soundThen := after_sound sound ops
  have retired : ∃ j ∈ c₁.retired, j.serial = i.serial := by
    rcases follows₁.accounted key i present with ⟨i', present', same⟩ | retired
    · refine absurd (cached?_eq_some.2 ⟨c₁, i', found₁, present', ?_⟩) left
      have keyed' := ((soundThen.caches _ c₁ found₁).keyed key i' present').1
      simp [IdentityCache.handleOf, IdentityCache.typeName, follows₁.entityType, keyed, keyed',
        same]
    · exact retired
  obtain ⟨j, member, same⟩ := retired
  -- from here on the instance is in the list of retired ones, which only grows
  have gone : ∀ later, (s.after (ops ++ later)).read? (c.handleOf i) = some j ∧
      (s.after (ops ++ later)).cached? typeName key ≠ some (c.handleOf i) := by
    intro later
    obtain ⟨c₂, found₂, follows₂⟩ := after_follows soundThen later found₁
    rw [← after_append] at found₂
    have cacheSound := (after_sound sound (ops ++ later)).caches _ c₂ found₂
    have still : j ∈ c₂.retired := follows₂.retired.subset member
    constructor
    · show ((s.after (ops ++ later)).session.caches.get? c.typeName).bind _ = _
      rw [named, found₂]
      exact cacheSound.read?_of_retired still same
    · intro again
      obtain ⟨c₂', i₂, found₂', present₂, equal⟩ := cached?_eq_some.1 again
      rw [found₂] at found₂'
      cases found₂'
      exact cacheSound.apart key i₂ present₂ j still
        (same.trans (congrArg Handle.serial equal).symm)
  refine ⟨j, ?_, gone⟩
  have now := (gone []).1
  rw [List.append_nil] at now
  exact now

/-! ### Identity -/

/-- Identity through whole runs: a cached instance stands under the key of its record, keeps its
place as long as the key stays cached, is what every answer consists of, and never changes again
once it has left the cache. -/
theorem identity_over_runs (reachable : s.Reachable) :
    (∀ typeName key h, s.cached? typeName key = some h →
      h.typeName = typeName ∧ h.key = key ∧ ∃ c i, s.session.caches.get? typeName = some c ∧
        s.read? h = some i ∧ i.key = key ∧ c.entityType.keyOf? i.record = some key) ∧
    (∀ typeName key h ops, s.cached? typeName key = some h →
      (∀ earlier, earlier <+: ops → (s.after earlier).cached? typeName key ≠ none) →
      (s.after ops).cached? typeName key = some h) ∧
    (∀ (op : Operation) handles, (op.run s).1 = .ok handles →
      ∀ h ∈ handles, (op.run s).2.cached? h.typeName h.key = some h) ∧
    (∀ typeName key h ops, s.cached? typeName key = some h →
      (s.after ops).cached? typeName key ≠ some h →
      ∃ i, (s.after ops).read? h = some i ∧ ∀ later, (s.after (ops ++ later)).read? h = some i ∧
        (s.after (ops ++ later)).cached? typeName key ≠ some h) := by
  have sound := reachable.sound
  refine ⟨?_, ?_, ?_, ?_⟩
  · intro typeName key h cached
    exact cached?_keyed sound cached
  · intro typeName key h ops cached stays
    exact cached?_after sound cached stays
  · intro op handles answered h returned
    exact cached?_answered sound answered returned
  · intro typeName key h ops cached left
    exact retired_after sound cached left

/-- A gauge that is refreshed, deleted and created anew: the first instance keeps its place through
the refresh and its record through everything after the deletion. -/
theorem identity_over_runs_gauge :
    let s := (Sample.opened [.count 1, .rows [Sample.row 1 6], .count 1, .count 1]).after
      [.request (.register Sample.gauge),
        .request (.persist ⟨Sample.gauge, .create, Sample.level 1 5⟩)]
    let reread := .request (.refreshKeys "Gauge" [.int 1])
    let delete := .request (.deleteKeys "Gauge" [.int 1])
    let create := .request (.persist ⟨Sample.gauge, .create, Sample.level 1 7⟩)
    (s.after [reread]).cached? "Gauge" (.int 1) = some ⟨"Gauge", .int 1, 0⟩ ∧
      (s.after [reread, delete, create]).cached? "Gauge" (.int 1) ≠ some ⟨"Gauge", .int 1, 0⟩ ∧
      (s.after [reread, delete, create]).read? ⟨"Gauge", .int 1, 0⟩
        = some ⟨0, .int 1, Sample.level 1 6, 1⟩ := by
  intro s reread delete create
  obtain ⟨_, keeps, _, frozen⟩ := identity_over_runs (Sample.reachable_after
    [.count 1, .rows [Sample.row 1 6], .count 1, .count 1]
    [.request (.register Sample.gauge),
      .request (.persist ⟨Sample.gauge, .create, Sample.level 1 5⟩)])
  have created : s.cached? "Gauge" (.int 1) = some ⟨"Gauge", .int 1, 0⟩ := by decide +kernel
  obtain ⟨i, then_, later⟩ := frozen "Gauge" (.int 1) ⟨"Gauge", .int 1, 0⟩ [reread, delete] created
    (by decide +kernel)
  obtain ⟨reads, gone⟩ := later [create]
  have last : (s.after [reread, delete]).read? ⟨"Gauge", .int 1, 0⟩
      = some ⟨0, .int 1, Sample.level 1 6, 1⟩ := by decide +kernel
  refine ⟨keeps _ _ _ [reread] created fun earlier start => ?_, gone, ?_⟩
  · rcases List.prefix_cons_iff.1 start with rfl | ⟨rest, rfl, none⟩
    · exact created ▸ Option.some_ne_none _
    · obtain rfl := List.prefix_nil.1 none
      decide +kernel
  · exact reads.trans (then_.symm.trans last)

end IdentityMap.Store
