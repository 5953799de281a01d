import IdentityMap.Proofs.Session.Lookup
import IdentityMap.Session.Delete
/-!
# The outcomes of deletions

A deletion fails before its statement or with it, and then no cache has changed. When the row store
has deleted the rows, their keys leave the cache and nothing fails any more.
-/

namespace IdentityMap.Session

variable {σ : Type} [RowStore σ] {s s' : Session σ} {typeName : String}

/-- The events of a deletion by key: one for every key whose values are known. -/
def deletions (c : IdentityCache) (readBack : List Record) (keys : List EntityKey) : List Event :=
  keys.filterMap fun key =>
    (lastKnown? c readBack key).map fun r => ⟨c.entityType, key, .deleted (some r)⟩

/-- The ways in which a deletion by key ends. -/
inductive DeleteEnds (s s' : Session σ) (c : IdentityCache) (keys : List EntityKey) :
    Except Error Nat → Prop
  | refused (e : Error) (looks : Looks s s') : DeleteEnds s s' c keys (.error e)
  | nothing (none : keys = []) (same : s = s') : DeleteEnds s s' c keys (.ok 0)
  | undeleted {t : Session σ} (e : Error) (looks : Looks s t)
    (failed : TableMapping.deleteRows ⟨c.entityType⟩ keys t.gateway = (.error e, s'.gateway))
    (quiet : Quiet s s') : DeleteEnds s s' c keys (.error e)
  | deleted {t : Session σ} (n : Nat) (readBack : List Record) (looks : Looks s t)
    (deleted : TableMapping.deleteRows ⟨c.entityType⟩ keys t.gateway = (.ok n, s'.gateway))
    (alters : Alters s s' c.entityType.name c (IdentityCache.removeAll keys c).2
      (deletions c readBack keys)) : DeleteEnds s s' c keys (.ok n)

theorem deleteKeys_cases (sound : s.Sound) {observed : Bool} {keys : List EntityKey}
    {o : Except Error Nat} (run : deleteKeys observed typeName keys s = (o, s')) :
    (∃ e, o = .error e ∧ Looks s s') ∨
    ∃ c, s.caches.get? typeName = some c ∧ c.entityType.name = typeName ∧
      DeleteEnds s s' c (distinct keys) o := by
  unfold deleteKeys at run
  rcases sound.resolve_bind run with ⟨e, rfl, rfl⟩ | ⟨c, cached, mapped, named, run₁⟩
  · exact .inl ⟨e, rfl, .refl _⟩
  refine .inr ⟨c, cached, named, ?_⟩
  subst named
  dsimp only at run₁
  split at run₁
  · rename_i none
    obtain ⟨rfl, rfl⟩ := pure_cases run₁
    exact .nothing none rfl
  -- reading back what is not cached is one query, or none
  have readBack : (∃ e, o = .error e ∧ Looks s s') ∨ ∃ t readBack, Looks s t ∧ (do
      let deleted ← Work.access (TableMapping.deleteRows ⟨c.entityType⟩ (distinct keys))
      Work.changeCache c.entityType.name fun c' =>
        .ok (((), deletions c readBack (distinct keys)),
          (IdentityCache.removeAll (distinct keys) c').2)
      return deleted : Work σ Nat) t = (o, s') := by
    split at run₁
    · rcases Work.access_bind run₁ with ⟨e, rfl, failed, quiet⟩ | ⟨records, t, asked, quiet, run₂⟩
      · exact .inl ⟨e, rfl, quiet, (TableMapping.fetchKeys_cases failed).1⟩
      · exact .inr ⟨t, records, ⟨quiet, (TableMapping.fetchKeys_cases asked).1⟩, run₂⟩
    · rcases bind_cases run₁ with ⟨e, failed, _⟩ | ⟨records, t, started, run₂⟩
      · cases (pure_cases failed).1
      · obtain ⟨_, rfl⟩ := pure_cases started
        exact .inr ⟨s, records, .refl s, run₂⟩
  rcases readBack with ⟨e, rfl, looks⟩ | ⟨t, readBack, looks, run₂⟩
  · exact .refused e looks
  rcases Work.access_bind run₂ with ⟨e, rfl, failed, quiet⟩ | ⟨n, u, deleted, quiet, run₃⟩
  · exact .undeleted e looks failed (looks.toQuiet.trans quiet)
  have before := looks.toQuiet.trans quiet
  have still : u.caches.get? c.entityType.name = some c := by rw [before.caches, cached]
  rcases bind_cases run₃ with ⟨e, failed, _⟩ | ⟨_, v, removed, done⟩
  · cases (Work.changeCache_made still rfl failed).1
  obtain ⟨_, same, alters⟩ := Work.changeCache_made still rfl removed
  obtain ⟨rfl, rfl⟩ := pure_cases done
  exact .deleted n readBack looks (same ▸ deleted) (before.alters alters)

/-- The ways in which the deletion of a whole table ends. -/
inductive ClearEnds (s s' : Session σ) (c : IdentityCache) : Except Error Nat → Prop
  | undeleted (e : Error)
    (failed : TableMapping.deleteAllRows ⟨c.entityType⟩ s.gateway = (.error e, s'.gateway))
    (quiet : Quiet s s') : ClearEnds s s' c (.error e)
  | deleted (n : Nat)
    (deleted : TableMapping.deleteAllRows ⟨c.entityType⟩ s.gateway = (.ok n, s'.gateway))
    (alters : Alters s s' c.entityType.name c (c.clear.2.markSynced true)
      (c.clear.1.map c.clear.2.removalEvent)) : ClearEnds s s' c (.ok n)

theorem deleteAll_cases (sound : s.Sound) {o : Except Error Nat}
    (run : deleteAll typeName s = (o, s')) :
    (∃ e, o = .error e ∧ Looks s s') ∨
    ∃ c, s.caches.get? typeName = some c ∧ c.entityType.name = typeName ∧ ClearEnds s s' c o := by
  unfold deleteAll at run
  rcases sound.resolve_bind run with ⟨e, rfl, rfl⟩ | ⟨c, cached, mapped, named, run₁⟩
  · exact .inl ⟨e, rfl, .refl _⟩
  refine .inr ⟨c, cached, named, ?_⟩
  subst named
  rcases Work.access_bind run₁ with ⟨e, rfl, failed, quiet⟩ | ⟨n, t, deleted, quiet, run₂⟩
  · exact .undeleted e failed quiet
  have still : t.caches.get? c.entityType.name = some c := by rw [quiet.caches, cached]
  rcases bind_cases run₂ with ⟨e, failed, _⟩ | ⟨_, u, cleared, done⟩
  · cases (Work.changeCache_made still rfl failed).1
  obtain ⟨_, same, alters⟩ := Work.changeCache_made still rfl cleared
  obtain ⟨rfl, rfl⟩ := pure_cases done
  exact .deleted n (same ▸ deleted) (quiet.alters alters)

end IdentityMap.Session
