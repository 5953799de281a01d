import IdentityMap.Proofs.Session.Delete
import IdentityMap.Proofs.Session.Persist
/-!
# How sessions evolve

`Session.Evolves R` compares a session with a later one: no type is lost, every cache has gone on in
steps, and the old and the new state of each cache are related by `R`. Persisting keeps every cached
instance unless it fails, and nothing that is done to a session gives a cached key another instance.
-/

namespace IdentityMap.Session

open IdentityCache (Kept Stable Steps Merged)

variable {σ : Type} {s t s' : Session σ} {typeName : String} {c c' : IdentityCache}
  {events : List Event}

/-- Every cache has gone on in steps, and `R` relates its states. -/
def Evolves (R : IdentityCache → IdentityCache → Prop) (s s' : Session σ) : Prop :=
  ∀ n c, s.caches.get? n = some c → ∃ c', s'.caches.get? n = some c' ∧ Steps c c' ∧ R c c'

namespace Evolves

variable {R S : IdentityCache → IdentityCache → Prop}

theorem mono (evolves : Evolves R s s') (weaker : ∀ c c', R c c' → S c c') : Evolves S s s' := by
  intro n c found
  obtain ⟨c', found', steps, related⟩ := evolves n c found
  exact ⟨c', found', steps, weaker c c' related⟩

theorem stable (evolves : Evolves Kept s s') : Evolves Stable s s' :=
  evolves.mono fun _ _ kept => kept.stable

theorem of_caches (reflexive : ∀ c, R c c) (same : s'.caches = s.caches) : Evolves R s s' := by
  intro n c found
  exact ⟨c, by rw [same, found], .refl c, reflexive c⟩

theorem of_alters (reflexive : ∀ c, R c c) (alters : Alters s s' typeName c c' events)
    (steps : Steps c c') (related : R c c') : Evolves R s s' := by
  intro n d found
  by_cases same : typeName = n
  · subst same
    obtain rfl := alters.unique found
    exact ⟨c', alters.get?_self, steps, related⟩
  · exact ⟨d, (alters.get?_of_ne same).trans found, .refl d, reflexive d⟩

theorem comp {T : IdentityCache → IdentityCache → Prop}
    (compose : ∀ c c₁ c', R c c₁ → S c₁ c' → T c c') (first : Evolves R s t)
    (later : Evolves S t s') : Evolves T s s' := by
  intro n c found
  obtain ⟨c₁, found₁, steps, related⟩ := first n c found
  obtain ⟨c', found', steps', related'⟩ := later n c₁ found₁
  exact ⟨c', found', steps.trans steps', compose c c₁ c' related related'⟩

theorem trans (first : Evolves Kept s t) (later : Evolves Kept t s') : Evolves Kept s s' :=
  first.comp (fun _ _ _ kept kept' => kept.trans kept') later

/-- Removals come last. -/
theorem trans_stable (first : Evolves Kept s t) (later : Evolves Stable t s') :
    Evolves Stable s s' :=
  first.comp (fun _ _ _ kept stable => kept.stable_trans stable) later

end Evolves

theorem Quiet.evolves (quiet : Quiet s s') : Evolves Kept s s' := .of_caches Kept.refl quiet.caches

theorem Holds.kept {h : Handle} (holds : s.Holds h) (evolves : Evolves Kept s s') : s'.Holds h := by
  obtain ⟨c, found, held⟩ := holds
  obtain ⟨c', found', _, kept⟩ := evolves _ c found
  exact ⟨c', found', held.kept kept⟩

/-! ### Lookups and deletions -/

variable [RowStore σ]

/-- What a lookup leaves behind. -/
theorem Ends.sound (sound : s.Sound) {o : Except Error (List Handle)}
    (ends : Ends s s' typeName o) : s'.Sound ∧ Evolves Stable s s' := by
  cases ends with
  | failed _ looks => exact ⟨sound.quiet looks.toQuiet, looks.toQuiet.evolves.stable⟩
  | served _ looks _ => exact ⟨sound.quiet looks.toQuiet, looks.toQuiet.evolves.stable⟩
  | @fetched _ _ c _ _ _ _ _ fetched _ _ =>
    have merged := IdentityCache.mergeFetched_merged (sound.caches _ c fetched.alters.cached)
      fetched.merged
    exact ⟨sound.alters fetched.alters merged.steps,
      .of_alters Stable.refl fetched.alters merged.steps merged.stable⟩
  | @loaded _ c _ _ _ _ _ loaded _ =>
    have merged := IdentityCache.mergeTable_merged (sound.caches _ c loaded.alters.cached)
      loaded.merged
    exact ⟨sound.alters loaded.alters merged.steps,
      .of_alters Stable.refl loaded.alters merged.steps merged.stable⟩

theorem Ends.holds {handles : List Handle} (ends : Ends s s' typeName (.ok handles)) :
    ∀ h ∈ handles, s'.Holds h := by
  cases ends with
  | served _ _ held => exact held
  | fetched _ _ _ _ held => exact held
  | loaded _ _ _ held => exact held

theorem DeleteEnds.sound (sound : s.Sound) {keys : List EntityKey} {o : Except Error Nat}
    (ends : DeleteEnds s s' c keys o) : s'.Sound ∧ Evolves Stable s s' := by
  cases ends with
  | refused _ looks => exact ⟨sound.quiet looks.toQuiet, looks.toQuiet.evolves.stable⟩
  | nothing _ same => exact same ▸ ⟨sound, (Quiet.refl s).evolves.stable⟩
  | undeleted _ _ _ quiet => exact ⟨sound.quiet quiet, quiet.evolves.stable⟩
  | deleted _ _ _ _ alters =>
    have steps := IdentityCache.steps_removeAll keys c
    exact ⟨sound.alters alters steps,
      .of_alters Stable.refl alters steps (IdentityCache.stable_removeAll keys c)⟩

theorem ClearEnds.sound (sound : s.Sound) {o : Except Error Nat} (ends : ClearEnds s s' c o) :
    s'.Sound ∧ Evolves Stable s s' := by
  cases ends with
  | undeleted _ _ quiet => exact ⟨sound.quiet quiet, quiet.evolves.stable⟩
  | deleted _ _ alters =>
    have steps := (IdentityCache.steps_removeAll c.keys c).trans (.single (.mark true))
    refine ⟨sound.alters alters steps, .of_alters Stable.refl alters steps ?_⟩
    intro key i i' found found'
    exact IdentityCache.stable_removeAll c.keys c key i i' found found'

/-! ### Other types -/

/-- Nothing has changed but the cache of one type. -/
def Spares (typeName : String) (s s' : Session σ) : Prop :=
  ∀ n, n ≠ typeName → s'.caches.get? n = s.caches.get? n

omit [RowStore σ] in
theorem Quiet.spares (quiet : Quiet s s') : Spares typeName s s' := fun n _ => by rw [quiet.caches]

omit [RowStore σ] in
theorem Alters.spares (alters : Alters s s' typeName c c' events) : Spares typeName s s' :=
  fun _ differ => alters.get?_of_ne (Ne.symm differ)

theorem Ends.spares {o : Except Error (List Handle)} (ends : Ends s s' typeName o) :
    Spares typeName s s' := by
  cases ends with
  | failed _ looks => exact looks.toQuiet.spares
  | served _ looks _ => exact looks.toQuiet.spares
  | fetched _ named fetched _ _ => exact named ▸ fetched.alters.spares
  | loaded _ named loaded _ => exact named ▸ loaded.alters.spares

theorem DeleteEnds.spares {keys : List EntityKey} {o : Except Error Nat}
    (ends : DeleteEnds s s' c keys o) : Spares c.entityType.name s s' := by
  cases ends with
  | refused _ looks => exact looks.toQuiet.spares
  | nothing _ same => exact same ▸ fun _ _ => rfl
  | undeleted _ _ _ quiet => exact quiet.spares
  | deleted _ _ _ _ alters => exact alters.spares

theorem ClearEnds.spares {o : Except Error Nat} (ends : ClearEnds s s' c o) :
    Spares c.entityType.name s s' := by
  cases ends with
  | undeleted _ _ quiet => exact quiet.spares
  | deleted _ _ alters => exact alters.spares

theorem CreateEnds.spares {values : Record} {o : Except Error Handle}
    (ends : CreateEnds s s' c values o) : Spares c.entityType.name s s' := by
  cases ends with
  | refused _ looks => exact looks.toQuiet.spares
  | uninserted _ _ _ _ quiet => exact quiet.spares
  | inserted _ _ _ _ _ alters => exact alters.spares

theorem ModifyEnds.spares {key : EntityKey} {values : Record} {o : Except Error Handle}
    (ends : ModifyEnds s s' c key values o) : Spares c.entityType.name s s' := by
  cases ends with
  | refused _ looks => exact looks.toQuiet.spares
  | unwritten _ _ _ quiet => exact quiet.spares
  | unconfirmed _ _ _ _ quiet => exact quiet.spares
  | gone _ _ _ alters => exact alters.spares
  | written _ _ _ _ _ alters => exact alters.spares

theorem persist_spares (sound : s.Sound) {d : Draft} {o : Except Error Handle}
    (run : persist d s = (o, s')) : Spares d.entityType.name s s' := by
  rcases persist_cases sound run with ⟨e, rfl, looks⟩ | ⟨c, _, named, ⟨_, ends⟩ | ⟨key, _, ends⟩⟩
  · exact looks.toQuiet.spares
  · exact named ▸ ends.spares
  · exact named ▸ ends.spares

/-- The types were visited in turn, up to some point, and each visit spared the other types. -/
inductive Visits : List String → Session σ → Session σ → Prop
  | stop (names : List String) {s s' : Session σ} (same : s'.caches = s.caches) : Visits names s s'
  | visit {n : String} {rest : List String} {s t s' : Session σ} (stable : Evolves Stable s t)
    (spares : Spares n s t) (later : Visits rest t s') : Visits (n :: rest) s s'

namespace Visits

omit [RowStore σ]

variable {names : List String}

theorem spares (visits : Visits names s s') {n : String} (unvisited : n ∉ names) :
    s'.caches.get? n = s.caches.get? n := by
  induction visits with
  | stop _ same => rw [same]
  | visit _ spared _ ih =>
    simp only [List.mem_cons, not_or] at unvisited
    exact (ih unvisited.2).trans (spared n unvisited.1)

/-- Where no type is visited twice, visits give no key another instance. -/
theorem stable (visits : Visits names s s') (once : names.Nodup) : Evolves Stable s s' := by
  induction visits with
  | stop _ same => exact .of_caches Stable.refl same
  | @visit visited rest s t s' stable spared later ih =>
    obtain ⟨absent, onceRest⟩ := List.nodup_cons.1 once
    intro n c found
    by_cases own : n = visited
    · subst own
      obtain ⟨c', found', steps, related⟩ := stable n c found
      exact ⟨c', (later.spares absent).trans found', steps, related⟩
    · exact ih onceRest n c ((spared n own).trans found)

end Visits

/-! ### Persisting -/

theorem CreateEnds.sound (sound : s.Sound) {values : Record} {o : Except Error Handle}
    (ends : CreateEnds s s' c values o) :
    s'.Sound ∧ Evolves Kept s s' ∧ ∀ h, o = .ok h → s'.Holds h := by
  cases ends with
  | refused _ looks => exact ⟨sound.quiet looks.toQuiet, looks.toQuiet.evolves, by simp⟩
  | uninserted _ _ _ _ quiet => exact ⟨sound.quiet quiet, quiet.evolves, by simp⟩
  | inserted h _ _ _ merge alters =>
    have cacheSound := sound.caches _ c alters.cached
    obtain ⟨key, carries, same, rfl, _⟩ := IdentityCache.mergeRecord_eq_ok merge
    obtain ⟨merged, kept⟩ := IdentityCache.merged_putKeyed cacheSound carries
    refine ⟨sound.alters alters merged.steps, .of_alters Kept.refl alters merged.steps kept, ?_⟩
    intro h' returned
    cases returned
    exact holds_of_get? alters.get?_self (by rw [merged.steps.entityType])
      (merged.holds h (by simp [same]))

theorem InsertEnds.sound (sound : s.Sound) {records : List Record} {o : Except Error (List Handle)}
    (ends : InsertEnds s s' c records o) :
    s'.Sound ∧ Evolves Kept s s' ∧ ∀ handles, o = .ok handles → ∀ h ∈ handles, s'.Holds h := by
  cases ends with
  | refused _ looks => exact ⟨sound.quiet looks.toQuiet, looks.toQuiet.evolves, by simp⟩
  | uninserted _ _ _ quiet => exact ⟨sound.quiet quiet, quiet.evolves, by simp⟩
  | inserted handles _ _ merge alters =>
    have cacheSound := sound.caches _ c alters.cached
    obtain ⟨merged, kept⟩ := IdentityCache.mergeRecords_merged cacheSound merge
    refine ⟨sound.alters alters merged.steps, .of_alters Kept.refl alters merged.steps kept, ?_⟩
    intro handles' returned h member
    cases returned
    exact holds_of_get? alters.get?_self (by rw [merged.steps.entityType]) (merged.holds h member)

/-- A change keeps every instance, unless it evicts the one whose row is gone. -/
theorem ModifyEnds.sound (sound : s.Sound) {key : EntityKey} {values : Record}
    {o : Except Error Handle} (ends : ModifyEnds s s' c key values o) :
    s'.Sound ∧ Evolves Stable s s' ∧ ∀ h, o = .ok h → Evolves Kept s s' ∧ s'.Holds h := by
  cases ends with
  | refused _ looks =>
    exact ⟨sound.quiet looks.toQuiet, looks.toQuiet.evolves.stable, by simp⟩
  | unwritten _ _ _ quiet => exact ⟨sound.quiet quiet, quiet.evolves.stable, by simp⟩
  | unconfirmed _ _ _ _ quiet => exact ⟨sound.quiet quiet, quiet.evolves.stable, by simp⟩
  | gone _ _ _ alters =>
    have steps : Steps c (c.evict key).2 := .single (.remove key)
    refine ⟨sound.alters alters steps, .of_alters Stable.refl alters steps ?_, by simp⟩
    exact IdentityCache.stable_removeAll [key] c
  | written h _ _ _ merge alters =>
    have cacheSound := sound.caches _ c alters.cached
    obtain ⟨key, carries, same, rfl, _⟩ := IdentityCache.mergeChange_eq_ok merge
    obtain ⟨merged, kept⟩ := IdentityCache.merged_putKeyed cacheSound carries
    refine ⟨sound.alters alters merged.steps,
      .of_alters Stable.refl alters merged.steps merged.stable, ?_⟩
    intro h' returned
    cases returned
    exact ⟨.of_alters Kept.refl alters merged.steps kept,
      holds_of_get? alters.get?_self (by rw [merged.steps.entityType])
        (merged.holds h (by simp [same]))⟩

/-- What one persisted draft leaves behind. -/
theorem persist_sound (sound : s.Sound) {d : Draft} {o : Except Error Handle}
    (run : persist d s = (o, s')) :
    s'.Sound ∧ Evolves Stable s s' ∧ ∀ h, o = .ok h → Evolves Kept s s' ∧ s'.Holds h := by
  rcases persist_cases sound run with ⟨e, rfl, looks⟩ | ⟨c, _, _, ⟨_, ends⟩ | ⟨key, _, ends⟩⟩
  · exact ⟨sound.quiet looks.toQuiet, looks.toQuiet.evolves.stable, by simp⟩
  · obtain ⟨later, kept, held⟩ := ends.sound sound
    exact ⟨later, kept.stable, fun h returned => ⟨kept, held h returned⟩⟩
  · exact ends.sound sound

/-! ### Persisting several drafts -/

theorem createEach_sound (sound : s.Sound) (cached : s.caches.get? c.entityType.name = some c)
    {values : List Record} {o : Except Error (List Handle)}
    (run : createEach ⟨c.entityType⟩ values s = (o, s')) :
    s'.Sound ∧ Evolves Kept s s' ∧ ∀ handles, o = .ok handles → ∀ h ∈ handles, s'.Holds h := by
  induction values generalizing s s' c o with
  | nil =>
    obtain ⟨rfl, rfl⟩ := pure_cases run
    exact ⟨sound, (Quiet.refl s).evolves, by simp⟩
  | cons first rest ih =>
    unfold createEach at run
    rcases bind_cases run with ⟨e, failed, rfl⟩ | ⟨h, t, created, run₁⟩
    · obtain ⟨later, kept, _⟩ := (create_ends cached failed).sound sound
      exact ⟨later, kept, by simp⟩
    obtain ⟨soundNext, keptNext, heldNext⟩ := (create_ends cached created).sound sound
    obtain ⟨c₁, cached₁, steps, _⟩ := keptNext _ c cached
    have sameType := steps.entityType
    rw [← sameType] at cached₁ run₁
    rcases bind_cases run₁ with ⟨e, failed, rfl⟩ | ⟨others, u, createdRest, done⟩
    · obtain ⟨later, kept, _⟩ := ih soundNext cached₁ failed
      exact ⟨later, keptNext.trans kept, by simp⟩
    obtain ⟨later, kept, held⟩ := ih soundNext cached₁ createdRest
    obtain ⟨rfl, rfl⟩ := pure_cases done
    refine ⟨later, keptNext.trans kept, ?_⟩
    intro handles returned h' member
    cases returned
    rcases List.mem_cons.1 member with rfl | member
    · exact (heldNext _ rfl).kept kept
    · exact held others rfl h' member

theorem createBatch_sound (sound : s.Sound) {values : List Record} {o : Except Error (List Handle)}
    (run : createBatch typeName values s = (o, s')) :
    s'.Sound ∧ Evolves Kept s s' ∧ ∀ handles, o = .ok handles → ∀ h ∈ handles, s'.Holds h := by
  rcases createBatch_cases sound run with ⟨e, rfl, looks⟩ |
    ⟨c, t, records, _, _, _, looks, ends, _⟩ | ⟨c, cached, named, _, run₁⟩
  · exact ⟨sound.quiet looks.toQuiet, looks.toQuiet.evolves, by simp⟩
  · obtain ⟨later, kept, held⟩ := ends.sound (sound.quiet looks.toQuiet)
    exact ⟨later, looks.toQuiet.evolves.trans kept, held⟩
  · exact createEach_sound sound (by rw [named, cached]) run₁

theorem createBatches_sound (sound : s.Sound) {groups : List (String × List (Draft × Nat))}
    {o : Except Error (List (Nat × Handle))} (run : createBatches groups s = (o, s')) :
    s'.Sound ∧ Evolves Kept s s' ∧ ∀ placed, o = .ok placed → ∀ p ∈ placed, s'.Holds p.2 := by
  induction groups generalizing s s' o with
  | nil =>
    obtain ⟨rfl, rfl⟩ := pure_cases run
    exact ⟨sound, (Quiet.refl s).evolves, by simp⟩
  | cons group rest ih =>
    unfold createBatches at run
    rcases bind_cases run with ⟨e, failed, rfl⟩ | ⟨handles, t, created, run₁⟩
    · obtain ⟨later, kept, _⟩ := createBatch_sound sound failed
      exact ⟨later, kept, by simp⟩
    obtain ⟨soundNext, keptNext, heldNext⟩ := createBatch_sound sound created
    rcases bind_cases run₁ with ⟨e, failed, rfl⟩ | ⟨others, u, createdRest, done⟩
    · obtain ⟨later, kept, _⟩ := ih soundNext failed
      exact ⟨later, keptNext.trans kept, by simp⟩
    obtain ⟨later, kept, held⟩ := ih soundNext createdRest
    obtain ⟨rfl, rfl⟩ := pure_cases done
    refine ⟨later, keptNext.trans kept, ?_⟩
    intro placed returned p member
    cases returned
    rcases List.mem_append.1 member with zipped | member
    · have listed : p.2 ∈ handles := (List.of_mem_zip (b := p.2) zipped).2
      exact (heldNext handles rfl p.2 listed).kept kept
    · exact held others rfl p member

theorem persistEach_sound (sound : s.Sound) {drafts : List (Draft × Nat)}
    {o : Except Error (List (Nat × Handle))} (run : persistEach drafts s = (o, s')) :
    s'.Sound ∧ Evolves Stable s s' ∧
      ∀ placed, o = .ok placed → Evolves Kept s s' ∧ ∀ p ∈ placed, s'.Holds p.2 := by
  induction drafts generalizing s s' o with
  | nil =>
    obtain ⟨rfl, rfl⟩ := pure_cases run
    have same := (Quiet.refl s).evolves
    exact ⟨sound, same.stable, fun placed returned => ⟨same, by cases returned; simp⟩⟩
  | cons head rest ih =>
    unfold persistEach at run
    rcases bind_cases run with ⟨e, failed, rfl⟩ | ⟨h, t, persisted, run₁⟩
    · obtain ⟨later, stable, _⟩ := persist_sound sound failed
      exact ⟨later, stable, by simp⟩
    obtain ⟨soundNext, _, next⟩ := persist_sound sound persisted
    obtain ⟨keptNext, heldNext⟩ := next h rfl
    rcases bind_cases run₁ with ⟨e, failed, rfl⟩ | ⟨others, u, persistedRest, done⟩
    · obtain ⟨later, stable, _⟩ := ih soundNext failed
      exact ⟨later, keptNext.trans_stable stable, by simp⟩
    obtain ⟨later, stable, last⟩ := ih soundNext persistedRest
    obtain ⟨kept, held⟩ := last others rfl
    obtain ⟨rfl, rfl⟩ := pure_cases done
    refine ⟨later, keptNext.trans_stable stable, ?_⟩
    intro placed returned
    cases returned
    refine ⟨keptNext.trans kept, fun p member => ?_⟩
    rcases List.mem_cons.1 member with rfl | member
    · exact heldNext.kept kept
    · exact held p member

theorem persistAll_sound (sound : s.Sound) {drafts : List Draft} {o : Except Error (List Handle)}
    (run : persistAll drafts s = (o, s')) :
    s'.Sound ∧ Evolves Stable s s' ∧ ∀ handles, o = .ok handles → ∀ h ∈ handles, s'.Holds h := by
  unfold persistAll at run
  dsimp only at run
  rcases bind_cases run with ⟨e, failed, rfl⟩ | ⟨created, t, batched, run₁⟩
  · obtain ⟨later, kept, _⟩ := createBatches_sound sound failed
    exact ⟨later, kept.stable, by simp⟩
  obtain ⟨soundNext, keptNext, heldNext⟩ := createBatches_sound sound batched
  rcases bind_cases run₁ with ⟨e, failed, rfl⟩ | ⟨others, u, persisted, done⟩
  · obtain ⟨later, stable, _⟩ := persistEach_sound soundNext failed
    exact ⟨later, keptNext.trans_stable stable, by simp⟩
  obtain ⟨later, stable, last⟩ := persistEach_sound soundNext persisted
  obtain ⟨kept, held⟩ := last others rfl
  obtain ⟨rfl, rfl⟩ := pure_cases done
  refine ⟨later, keptNext.trans_stable stable, ?_⟩
  intro handles returned h member
  cases returned
  obtain ⟨place, _, found⟩ := List.mem_filterMap.1 member
  obtain ⟨before, after, placed, _⟩ := List.lookup_eq_some_iff.1 found
  have listed : (place, h) ∈ created ++ others := by simp [placed]
  rcases List.mem_append.1 listed with early | late
  · exact (heldNext created rfl _ early).kept kept
  · exact held _ late

end IdentityMap.Session
