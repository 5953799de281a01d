import IdentityMap.Proofs.Cache.Merges
import IdentityMap.Session.Basic
/-!
# Taking work apart

A piece of work runs until its first failing part. `bind_cases` reads a run backwards through one
part, and the lemmas on the primitive parts say what each of them leaves behind. Two relations carry
the results upwards: after `Session.Quiet` nothing is different that a cache, a table or a trigger
can tell, and after `Session.Alters` the cache of one type is different.
-/

namespace IdentityMap

variable {σ : Type}

/-! ### Parts of a run -/

section Parts

variable {ς ε α β : Type} {w : ExceptT ε (StateM ς) α} {f : α → ExceptT ε (StateM ς) β} {s s' : ς}

/-- A run of two parts ends with the failure of the first one, or the second one goes on from where
the first one stopped. -/
theorem bind_cases {o : Except ε β} (run : (w >>= f) s = (o, s')) :
    (∃ e, w s = (.error e, s') ∧ o = .error e) ∨ ∃ a t, w s = (.ok a, t) ∧ f a t = (o, s') := by
  have unfolded : (w >>= f) s = match w s with
      | (.ok a, t) => f a t
      | (.error e, t) => (.error e, t) := by
    show (ExceptT.bind w f) s = _
    simp only [ExceptT.bind, ExceptT.mk, bind, StateT.bind]
    rcases w s with ⟨o | a, t⟩ <;> rfl
  rw [unfolded] at run
  rcases first : w s with ⟨e | a, t⟩
  · rw [first] at run
    cases run
    exact .inl ⟨e, rfl, rfl⟩
  · rw [first] at run
    exact .inr ⟨a, t, rfl, run⟩

/-- A run whose first part succeeds goes on with the second one. -/
theorem bind_of_ok {a : α} {t : ς} (first : w s = (.ok a, t)) : (w >>= f) s = f a t := by
  rcases run : (w >>= f) s with ⟨o, s'⟩
  rcases bind_cases run with ⟨e, failed, _⟩ | ⟨a', t', ran, rest⟩
  · rw [first] at failed
    cases failed
  · rw [first] at ran
    cases ran
    exact rest.symm

/-- A run whose first part fails ends there. -/
theorem bind_of_error {e : ε} {t : ς} (first : w s = (.error e, t)) :
    (w >>= f) s = (.error e, t) := by
  rcases run : (w >>= f) s with ⟨o, s'⟩
  rcases bind_cases run with ⟨e', failed, rfl⟩ | ⟨a, t', ran, _⟩
  · rw [first] at failed
    cases failed
    rfl
  · rw [first] at ran
    cases ran

theorem pure_cases {a : α} {o : Except ε α}
    (run : (pure a : ExceptT ε (StateM ς) α) s = (o, s')) : o = .ok a ∧ s = s' := by
  cases run
  exact ⟨rfl, rfl⟩

/-- A run of two parts that succeeds has gone through both of them. -/
theorem bind_ok {b : β} (run : (w >>= f) s = (.ok b, s')) :
    ∃ a t, w s = (.ok a, t) ∧ f a t = (.ok b, s') := by
  rcases bind_cases run with ⟨_, _, failed⟩ | passed
  · cases failed
  · exact passed

theorem pure_ok {a b : α} (run : (pure a : ExceptT ε (StateM ς) α) s = (.ok b, s')) :
    a = b ∧ s = s' := by
  cases run
  exact ⟨rfl, rfl⟩

theorem throw_cases {e : ε} {o : Except ε α}
    (run : (throw e : ExceptT ε (StateM ς) α) s = (o, s')) : o = .error e ∧ s = s' := by
  cases run
  exact ⟨rfl, rfl⟩

end Parts

/-! ### What becomes of a session -/

namespace Session

/-- The caches, their tables and the outbox are as before. -/
structure Quiet (s s' : Session σ) : Prop where
  settings : s'.settings = s.settings
  catalog : s'.catalog = s.catalog
  caches : s'.caches = s.caches
  outbox : s'.outbox = s.outbox

/-- The cache of one registered type has become `c'`, and the events are in the outbox. -/
structure Alters (s s' : Session σ) (typeName : String) (c c' : IdentityCache)
    (events : List Event) : Prop where
  settings : s'.settings = s.settings
  catalog : s'.catalog = s.catalog
  cached : s.caches.get? typeName = some c
  caches : s'.caches = s.caches.insert typeName c'
  outbox : s'.outbox = s.outbox ++ events

variable {s t s' : Session σ} {typeName : String} {c c' : IdentityCache} {events : List Event}

theorem Quiet.refl (s : Session σ) : Quiet s s := ⟨rfl, rfl, rfl, rfl⟩

theorem Quiet.trans (first : Quiet s t) (later : Quiet t s') : Quiet s s' where
  settings := later.settings.trans first.settings
  catalog := later.catalog.trans first.catalog
  caches := later.caches.trans first.caches
  outbox := later.outbox.trans first.outbox

theorem Quiet.alters (first : Quiet s t) (later : Alters t s' typeName c c' events) :
    Alters s s' typeName c c' events where
  settings := later.settings.trans first.settings
  catalog := later.catalog.trans first.catalog
  cached := first.caches ▸ later.cached
  caches := first.caches ▸ later.caches
  outbox := first.outbox ▸ later.outbox

theorem Alters.unique (alters : Alters s s' typeName c c' events) {d : IdentityCache}
    (cached : s.caches.get? typeName = some d) : c = d :=
  Option.some.inj (alters.cached.symm.trans cached)

theorem Alters.get?_self (alters : Alters s s' typeName c c' events) :
    s'.caches.get? typeName = some c' := by
  rw [alters.caches, OrderedMap.get?_insert_self]

theorem Alters.get?_of_ne (alters : Alters s s' typeName c c' events) {other : String}
    (differ : typeName ≠ other) : s'.caches.get? other = s.caches.get? other := by
  rw [alters.caches, OrderedMap.get?_insert_of_ne _ _ differ]

end Session

/-! ### The primitive parts -/

namespace Work

open Session

variable {α : Type} {s s' : Session σ}

theorem ofExcept_cases {outcome o : Except Error α}
    (run : (ofExcept outcome : Work σ α) s = (o, s')) : o = outcome ∧ s = s' := by
  cases run
  exact ⟨rfl, rfl⟩

theorem access_cases {a : Access σ α} {o : Except Error α} (run : access a s = (o, s')) :
    a s.gateway = (o, s'.gateway) ∧ Quiet s s' := by
  cases run
  exact ⟨rfl, rfl, rfl, rfl, rfl⟩

/-- What the row store answers is the outcome, and what it has left behind stays. -/
theorem access_eq {a : Access σ α} {o : Except Error α} {g : Gateway σ}
    (answered : a s.gateway = (o, g)) : access a s = (o, { s with gateway := g }) := by
  unfold access
  rw [answered]

theorem countLookups_cases {hits misses : Nat} {o : Except Error Unit}
    (run : (countLookups hits misses : Work σ Unit) s = (o, s')) :
    o = .ok () ∧ s'.gateway = s.gateway ∧ Quiet s s' := by
  cases run
  exact ⟨rfl, rfl, rfl, rfl, rfl, rfl⟩

/-- Where an outcome is known beforehand, the rest of the run starts from the same session. -/
theorem ofExcept_bind {β : Type} {outcome : Except Error α} {f : α → Work σ β} {o : Except Error β}
    (run : (ofExcept outcome >>= f) s = (o, s')) :
    (∃ e, o = .error e ∧ outcome = .error e ∧ s = s') ∨
    ∃ a, outcome = .ok a ∧ f a s = (o, s') := by
  rcases bind_cases run with ⟨e, failed, rfl⟩ | ⟨a, t, passed, rest⟩
  · obtain ⟨same, rfl⟩ := ofExcept_cases failed
    exact .inl ⟨e, rfl, same.symm, rfl⟩
  · obtain ⟨same, rfl⟩ := ofExcept_cases passed
    exact .inr ⟨a, same.symm, rest⟩

theorem ofExcept_bind_ok {β : Type} {outcome : Except Error α} {f : α → Work σ β} {b : β}
    (run : (ofExcept outcome >>= f) s = (.ok b, s')) :
    ∃ a, outcome = .ok a ∧ f a s = (.ok b, s') := by
  rcases ofExcept_bind run with ⟨_, failed, _⟩ | passed
  · cases failed
  · exact passed

theorem ofExcept_ok_bind {β : Type} {a : α} {f : α → Work σ β} :
    (ofExcept (.ok a) >>= f) s = f a s := rfl

theorem ofExcept_error_bind {β : Type} {e : Error} {f : α → Work σ β} :
    (ofExcept (.error e) >>= f) s = (.error e, s) := rfl

/-- Reading the session changes nothing and does not fail. -/
theorem get_bind {f : Session σ → Work σ α} : (MonadState.get >>= f) s = f s s := rfl

/-- Using the row store fails, or the rest of the run starts from what it has left behind. -/
theorem access_bind {β : Type} {a : Access σ α} {f : α → Work σ β} {o : Except Error β}
    (run : (access a >>= f) s = (o, s')) :
    (∃ e, o = .error e ∧ a s.gateway = (.error e, s'.gateway) ∧ Quiet s s') ∨
    ∃ x t, a s.gateway = (.ok x, t.gateway) ∧ Quiet s t ∧ f x t = (o, s') := by
  rcases bind_cases run with ⟨e, failed, rfl⟩ | ⟨x, t, called, rest⟩
  · obtain ⟨failed, quiet⟩ := access_cases failed
    exact .inl ⟨e, rfl, failed, quiet⟩
  · obtain ⟨called, quiet⟩ := access_cases called
    exact .inr ⟨x, t, called, quiet, rest⟩

theorem cache_eq_ok {caches : CacheSet} {typeName : String} {c : IdentityCache} :
    caches.cache typeName = .ok c ↔ caches.get? typeName = some c := by
  unfold CacheSet.cache
  split <;> simp [*]

theorem mapping_eq_ok {catalog : Catalog} {typeName : String} {m : TableMapping} :
    catalog.mapping typeName = .ok m ↔ catalog.get? typeName = some m := by
  unfold Catalog.mapping
  split <;> simp [*]

theorem resolve_cases {typeName : String} {o : Except Error (IdentityCache × TableMapping)}
    (run : (resolve typeName : Work σ _) s = (o, s')) :
    s = s' ∧ ∀ c m, o = .ok (c, m) →
      s.caches.get? typeName = some c ∧ s.catalog.get? typeName = some m := by
  unfold resolve at run
  cases cached : s.caches.cache typeName with
  | error e =>
    simp only [cached] at run
    cases run
    exact ⟨rfl, by simp⟩
  | ok c =>
    simp only [cached] at run
    cases run
    refine ⟨rfl, fun c' m' resolved => ?_⟩
    cases mapped : s.catalog.mapping typeName with
    | error e => simp [mapped, Except.map] at resolved
    | ok m =>
      simp only [mapped, Except.map, Except.ok.injEq, Prod.mk.injEq] at resolved
      obtain ⟨rfl, rfl⟩ := resolved
      exact ⟨cache_eq_ok.1 cached, mapping_eq_ok.1 mapped⟩

/-- A change of a cache happens as a whole or not at all. -/
theorem changeCache_cases {typeName : String}
    {change : IdentityCache → Except Error ((α × List Event) × IdentityCache)}
    {o : Except Error α} (run : changeCache typeName change s = (o, s')) :
    (∃ e, o = .error e ∧ s = s' ∧ ∀ c, s.caches.get? typeName = some c → change c = .error e) ∨
    ∃ c a events c', o = .ok a ∧ s'.gateway = s.gateway ∧ change c = .ok ((a, events), c') ∧
      Alters s s' typeName c c' events := by
  unfold changeCache at run
  cases cached : s.caches.cache typeName with
  | error e =>
    simp only [cached, Except.bind] at run
    cases run
    refine .inl ⟨e, rfl, rfl, fun c found => ?_⟩
    rw [cache_eq_ok.2 found] at cached
    cases cached
  | ok c =>
    cases changed : change c with
    | error e =>
      simp only [cached, changed, Except.bind] at run
      cases run
      refine .inl ⟨e, rfl, rfl, fun c' found => ?_⟩
      rw [cache_eq_ok.2 found] at cached
      cases cached
      exact changed
    | ok result =>
      obtain ⟨⟨a, events⟩, c'⟩ := result
      simp only [cached, changed, Except.bind] at run
      cases run
      exact .inr ⟨c, a, events, c', rfl, rfl, changed, rfl, rfl, cache_eq_ok.1 cached, rfl, rfl⟩

/-- A change of a cache that yields a result for the cached value is made. -/
theorem changeCache_made {typeName : String} {c : IdentityCache} {o : Except Error α}
    {change : IdentityCache → Except Error ((α × List Event) × IdentityCache)}
    (cached : s.caches.get? typeName = some c) {a : α} {events : List Event} {c' : IdentityCache}
    (changed : change c = .ok ((a, events), c'))
    (run : changeCache typeName change s = (o, s')) :
    o = .ok a ∧ s'.gateway = s.gateway ∧ Alters s s' typeName c c' events := by
  rcases changeCache_cases run with ⟨e, _, _, fails⟩ | ⟨c₁, a₁, events₁, c₁', rfl, same, changed₁,
    alters⟩
  · rw [fails c cached] at changed
    cases changed
  · obtain rfl := alters.unique cached
    rw [changed] at changed₁
    cases changed₁
    exact ⟨rfl, same, alters⟩

end Work

end IdentityMap
