import IdentityMap.Proofs.Work
/-!
# Sound sessions

In a sound session every cache is sound, and a name stands for one type in all places: under the
name of a type there are the cache of that type and its table. Whatever happens to a cache in steps
keeps the session sound.
-/

namespace IdentityMap.Session

variable {σ : Type} {s s' : Session σ} {typeName : String} {c c' : IdentityCache}
  {events : List Event}

structure Sound (s : Session σ) : Prop where
  caches : ∀ n c, s.caches.get? n = some c → c.Sound
  named : ∀ n c, s.caches.get? n = some c → c.entityType.name = n
  mapped : ∀ n c, s.caches.get? n = some c → s.catalog.get? n = some ⟨c.entityType⟩

namespace Sound

/-- Telling triggers does not matter. -/
theorem told (sound : s.Sound) : Sound { s with outbox := [] } :=
  ⟨sound.caches, sound.named, sound.mapped⟩

theorem quiet (sound : s.Sound) (quiet : Quiet s s') : s'.Sound := by
  obtain ⟨_, sameCatalog, sameCaches, _⟩ := quiet
  refine ⟨?_, ?_, ?_⟩
  · rw [sameCaches]
    exact sound.caches
  · rw [sameCaches]
    exact sound.named
  · rw [sameCaches, sameCatalog]
    exact sound.mapped

theorem alters (sound : s.Sound) (alters : Alters s s' typeName c c' events)
    (steps : IdentityCache.Steps c c') : s'.Sound := by
  have sameType := steps.entityType
  refine ⟨?_, ?_, ?_⟩
  · intro n d found
    by_cases same : typeName = n
    · subst same
      rw [alters.get?_self] at found
      cases found
      exact (sound.caches _ c alters.cached).steps steps
    · rw [alters.get?_of_ne same] at found
      exact sound.caches n d found
  · intro n d found
    by_cases same : typeName = n
    · subst same
      rw [alters.get?_self] at found
      cases found
      rw [sameType]
      exact sound.named _ c alters.cached
    · rw [alters.get?_of_ne same] at found
      exact sound.named n d found
  · intro n d found
    rw [alters.catalog]
    by_cases same : typeName = n
    · subst same
      rw [alters.get?_self] at found
      cases found
      rw [sameType]
      exact sound.mapped _ c alters.cached
    · rw [alters.get?_of_ne same] at found
      exact sound.mapped n d found

/-- A sound session resolves the types that it caches. -/
theorem resolve_ok (sound : s.Sound) (cached : s.caches.get? typeName = some c) :
    (Work.resolve typeName : Work σ _) s = (.ok (c, ⟨c.entityType⟩), s) := by
  unfold Work.resolve
  rw [Work.cache_eq_ok.2 cached, Work.mapping_eq_ok.2 (sound.mapped _ c cached)]
  rfl

/-- Work on a type that a sound session resolves goes on with the cache and its table. -/
theorem resolve_bind (sound : s.Sound) {α : Type} {f : IdentityCache × TableMapping → Work σ α}
    {o : Except Error α} (run : (Work.resolve typeName >>= f) s = (o, s')) :
    (∃ e, o = .error e ∧ s = s') ∨
    ∃ c, s.caches.get? typeName = some c ∧ s.catalog.get? typeName = some ⟨c.entityType⟩ ∧
      c.entityType.name = typeName ∧ f (c, ⟨c.entityType⟩) s = (o, s') := by
  rcases bind_cases run with ⟨e, failed, rfl⟩ | ⟨⟨c, m⟩, t, resolved, rest⟩
  · exact .inl ⟨e, rfl, (Work.resolve_cases failed).1⟩
  · obtain ⟨rfl, found⟩ := Work.resolve_cases resolved
    obtain ⟨cached, mapped⟩ := found c m rfl
    have own := sound.mapped _ c cached
    rw [mapped] at own
    cases own
    exact .inr ⟨c, cached, mapped, sound.named _ c cached, rest⟩

end Sound

/-- The instance of a handle is the one that is cached for its type under its key. -/
def Holds (s : Session σ) (h : Handle) : Prop :=
  ∃ c, s.caches.get? h.typeName = some c ∧ c.Holds h

theorem holds_of_get? {h : Handle} (cached : s.caches.get? typeName = some c)
    (named : c.entityType.name = typeName) (held : c.Holds h) : s.Holds h := by
  obtain ⟨i, found, rfl⟩ := held
  exact ⟨c, by rw [← cached, ← named]; rfl, i, found, rfl⟩

end IdentityMap.Session
