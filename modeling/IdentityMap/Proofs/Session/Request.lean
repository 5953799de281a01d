import IdentityMap.Proofs.Session.Evolution
/-!
# Requests

A request is what a store asks of its session in one piece, before triggers are told. Whatever the
row store does, a request keeps the session sound, gives no cached key another instance, and answers
with instances that are cached (`Request.run_sound`).
-/

namespace IdentityMap

inductive Request
  | register (t : EntityType)
  | get (typeName : String) (key : EntityKey) (policy : CachePolicy)
  | getSome (typeName : String) (keys : List EntityKey) (policy : CachePolicy)
  | getAll (typeName : String) (policy : CachePolicy)
  | getSize (typeName : String) (policy : CachePolicy)
  | persist (d : Draft)
  | persistAll (drafts : List Draft)
  | deleteKeys (typeName : String) (keys : List EntityKey)
  | deleteAll (typeName : String)
  | refreshKeys (typeName : String) (keys : List EntityKey)
  | refreshType (typeName : String)

variable {σ : Type} [RowStore σ]

/-- The type that a request is about, if it is about one type only. -/
def Request.typeName? : Request → Option String
  | register t => some t.name
  | persist d => some d.entityType.name
  | persistAll _ => none
  | get typeName _ _ | getSome typeName _ _ | getAll typeName _ | getSize typeName _
  | deleteKeys typeName _ | deleteAll typeName | refreshKeys typeName _ | refreshType typeName =>
    some typeName

/-- The instances in an answer. -/
def Session.instancesIn {α : Type} (instances : α → List Handle)
    (answer : Except Error α × Session σ) : Except Error (List Handle) × Session σ :=
  (answer.1.map instances, answer.2)

open Session in
/-- Run a request; the instances that it answers with. `observed` says of which types triggers see
the events. -/
def Request.run (observed : String → Bool) (r : Request) (s : Session σ) :
    Except Error (List Handle) × Session σ :=
  match r with
  | register t => instancesIn (fun _ => []) (Session.register t s)
  | get typeName key policy => instancesIn Option.toList (Session.get typeName key policy s)
  | getSome typeName keys policy => Session.getSome typeName keys policy s
  | getAll typeName policy => Session.getAll typeName policy s
  | getSize typeName policy => instancesIn (fun _ => []) (Session.getSize typeName policy s)
  | persist d => instancesIn ([·]) (Session.persist d s)
  | persistAll drafts => Session.persistAll drafts s
  | deleteKeys typeName keys =>
    instancesIn (fun _ => []) (Session.deleteKeys (observed typeName) typeName keys s)
  | deleteAll typeName => instancesIn (fun _ => []) (Session.deleteAll typeName s)
  | refreshKeys typeName keys => Session.refreshKeys typeName keys s
  | refreshType typeName => instancesIn (fun _ => []) (Session.refreshType typeName s)

namespace Session

open IdentityCache (Stable)

variable {s s' : Session σ}

/-! ### Registering -/

/-- One more type has its cache and its table. -/
structure Registers (s s' : Session σ) (t : EntityType) : Prop where
  settings : s'.settings = s.settings
  freshTable : s.catalog.get? t.name = none
  freshCache : s.caches.get? t.name = none
  catalog : s'.catalog = s.catalog.insert t.name ⟨t⟩
  caches : s'.caches = s.caches.insert t.name (.new t)
  outbox : s'.outbox = s.outbox

/-- The ways in which a registration ends. -/
inductive RegisterEnds (s s' : Session σ) (t : EntityType) : Except Error Unit → Prop
  | refused (e : Error) (same : s = s') : RegisterEnds s s' t (.error e)
  | uncreated (e : Error)
    (failed : TableMapping.createSchema ⟨t⟩ s.gateway = (.error e, s'.gateway))
    (quiet : Quiet s s') : RegisterEnds s s' t (.error e)
  | created (o : Except Error Unit)
    (created : TableMapping.createSchema ⟨t⟩ s.gateway = (.ok (), s'.gateway))
    (enrolled : (∃ e, o = .error e ∧ Quiet s s') ∨ o = .ok () ∧ Registers s s' t) :
    RegisterEnds s s' t o
  | enrolled (o : Except Error Unit) (same : s'.gateway = s.gateway)
    (enrolled : (∃ e, o = .error e ∧ Quiet s s') ∨ o = .ok () ∧ Registers s s' t) :
    RegisterEnds s s' t o

omit [RowStore σ] in
theorem enroll_cases {t : EntityType} {o : Except Error Unit} (run : enroll t s = (o, s')) :
    s'.gateway = s.gateway ∧
      ((∃ e, o = .error e ∧ Quiet s s') ∨ o = .ok () ∧ Registers s s' t) := by
  unfold enroll at run
  split at run
  · cases run
    exact ⟨rfl, .inl ⟨_, rfl, .refl s⟩⟩
  · cases run
    exact ⟨rfl, .inl ⟨_, rfl, .refl s⟩⟩
  · rename_i catalog caches mapped cached
    cases run
    unfold Catalog.register at mapped
    unfold CacheSet.register at cached
    split at mapped
    · cases mapped
    · split at cached
      · cases cached
      · rename_i noTable noCache
        cases mapped
        cases cached
        refine ⟨rfl, .inr ⟨rfl, rfl, ?_, ?_, rfl, rfl, rfl⟩⟩
        · simpa [OrderedMap.contains] using noTable
        · simpa [OrderedMap.contains] using noCache

theorem register_ends {t : EntityType} {o : Except Error Unit} (run : register t s = (o, s')) :
    RegisterEnds s s' t o := by
  unfold register at run
  rcases bind_cases run with ⟨e, failed, _⟩ | ⟨now, u, read, run₁⟩
  · cases failed
  cases read
  dsimp only at run₁
  split at run₁
  · rcases bind_cases run₁ with ⟨e, failed, rfl⟩ | ⟨_, _, impossible, _⟩
    · exact .refused e (throw_cases failed).2
    · cases (throw_cases impossible).1
  split at run₁
  · rcases Work.access_bind run₁ with ⟨e, rfl, failed, quiet⟩ | ⟨_, u, created, quiet, run₂⟩
    · exact .uncreated e failed quiet
    obtain ⟨same, enrolled⟩ := enroll_cases run₂
    refine .created o (same ▸ created) ?_
    rcases enrolled with ⟨e, rfl, later⟩ | ⟨rfl, registers⟩
    · exact .inl ⟨e, rfl, quiet.trans later⟩
    · refine .inr ⟨rfl, ?_, ?_, ?_, ?_, ?_, ?_⟩
      · rw [registers.settings, quiet.settings]
      · rw [← quiet.catalog, registers.freshTable]
      · rw [← quiet.caches, registers.freshCache]
      · rw [registers.catalog, quiet.catalog]
      · rw [registers.caches, quiet.caches]
      · rw [registers.outbox, quiet.outbox]
  · obtain ⟨same, enrolled⟩ := enroll_cases run₁
    exact .enrolled o same enrolled

omit [RowStore σ] in
theorem Registers.sound (sound : s.Sound) {t : EntityType} (registers : Registers s s' t) :
    s'.Sound ∧ Evolves Stable s s' := by
  have others : ∀ n, t.name ≠ n → s'.caches.get? n = s.caches.get? n := fun n differ => by
    rw [registers.caches, OrderedMap.get?_insert_of_ne _ _ differ]
  have own : s'.caches.get? t.name = some (.new t) := by
    rw [registers.caches, OrderedMap.get?_insert_self]
  refine ⟨⟨?_, ?_, ?_⟩, ?_⟩
  · intro n c found
    by_cases same : t.name = n
    · subst same
      rw [own] at found
      cases found
      exact IdentityCache.sound_new t
    · rw [others n same] at found
      exact sound.caches n c found
  · intro n c found
    by_cases same : t.name = n
    · subst same
      rw [own] at found
      cases found
      rfl
    · rw [others n same] at found
      exact sound.named n c found
  · intro n c found
    rw [registers.catalog]
    by_cases same : t.name = n
    · subst same
      rw [own] at found
      cases found
      exact OrderedMap.get?_insert_self _ _ _
    · rw [others n same] at found
      rw [OrderedMap.get?_insert_of_ne _ _ same]
      exact sound.mapped n c found
  · intro n c found
    have differ : t.name ≠ n := by
      rintro rfl
      rw [registers.freshCache] at found
      cases found
    exact ⟨c, (others n differ).trans found, .refl c, Stable.refl c⟩

/-- However a registration ends, the type is registered or nothing is different. -/
theorem RegisterEnds.quiet_or_registers {t : EntityType} {o : Except Error Unit}
    (ends : RegisterEnds s s' t o) : Quiet s s' ∨ Registers s s' t := by
  cases ends with
  | refused _ same => exact .inl (same ▸ .refl s)
  | uncreated _ _ quiet => exact .inl quiet
  | created _ _ enrolled | enrolled _ _ enrolled =>
    rcases enrolled with ⟨_, _, quiet⟩ | ⟨_, registers⟩
    · exact .inl quiet
    · exact .inr registers

theorem RegisterEnds.sound (sound : s.Sound) {t : EntityType} {o : Except Error Unit}
    (ends : RegisterEnds s s' t o) : s'.Sound ∧ Evolves Stable s s' := by
  rcases ends.quiet_or_registers with quiet | registers
  · exact ⟨sound.quiet quiet, quiet.evolves.stable⟩
  · exact registers.sound sound

theorem RegisterEnds.spares {t : EntityType} {o : Except Error Unit}
    (ends : RegisterEnds s s' t o) : Spares t.name s s' := by
  rcases ends.quiet_or_registers with quiet | registers
  · exact quiet.spares
  · intro n differ
    rw [registers.caches, OrderedMap.get?_insert_of_ne _ _ (Ne.symm differ)]

end Session

/-! ### Every request -/

namespace Request

open Session
open IdentityCache (Stable)

variable {s s' : Session σ} {observed : String → Bool} {o : Except Error (List Handle)}

omit [RowStore σ] in
/-- The outcome and the session of a piece of work whose instances are looked at. -/
theorem instancesIn_cases {α : Type} {instances : α → List Handle} {w : Work σ α}
    (run : instancesIn instances (w s) = (o, s')) :
    ∃ answer, w s = (answer, s') ∧ o = answer.map instances := by
  rcases ran : w s with ⟨answer, t⟩
  rw [ran] at run
  cases run
  exact ⟨answer, rfl, rfl⟩

theorem run_sound (sound : s.Sound) {r : Request} (run : r.run observed s = (o, s')) :
    s'.Sound ∧ Evolves Stable s s' ∧ ∀ handles, o = .ok handles → ∀ h ∈ handles, s'.Holds h := by
  have looked {typeName : String} (ends : Ends s s' typeName o) : s'.Sound ∧ Evolves Stable s s' ∧
      ∀ handles, o = .ok handles → ∀ h ∈ handles, s'.Holds h := by
    obtain ⟨later, stable⟩ := ends.sound sound
    refine ⟨later, stable, ?_⟩
    rintro handles rfl
    exact ends.holds
  have silent {α : Type} {answer : Except Error α} (after : s'.Sound ∧ Evolves Stable s s')
      (same : o = answer.map fun _ => []) : s'.Sound ∧ Evolves Stable s s' ∧
      ∀ handles, o = .ok handles → ∀ h ∈ handles, s'.Holds h := by
    refine ⟨after.1, after.2, ?_⟩
    intro handles returned h member
    rw [same] at returned
    cases answer <;> cases returned
    cases member
  cases r with
  | register t =>
    obtain ⟨answer, ran, same⟩ := instancesIn_cases run
    exact silent ((register_ends ran).sound sound) same
  | get typeName key policy =>
    obtain ⟨answer, ran, rfl⟩ := instancesIn_cases run
    exact looked (get_ends sound ran)
  | getSome typeName keys policy => exact looked (getSome_ends sound run)
  | getAll typeName policy => exact looked (getAll_ends sound run)
  | getSize typeName policy =>
    obtain ⟨answer, ran, rfl⟩ := instancesIn_cases run
    exact looked (getSize_ends sound ran)
  | persist d =>
    obtain ⟨answer, ran, rfl⟩ := instancesIn_cases run
    obtain ⟨later, stable, last⟩ := persist_sound sound ran
    refine ⟨later, stable, ?_⟩
    intro handles returned h member
    cases answer with
    | error e => cases returned
    | ok h₁ =>
      cases returned
      obtain rfl := List.mem_singleton.1 member
      exact (last _ rfl).2
  | persistAll drafts => exact persistAll_sound sound run
  | deleteKeys typeName keys =>
    obtain ⟨answer, ran, same⟩ := instancesIn_cases run
    refine silent ?_ same
    rcases deleteKeys_cases sound ran with ⟨_, _, looks⟩ | ⟨c, _, _, ends⟩
    · exact ⟨sound.quiet looks.toQuiet, looks.toQuiet.evolves.stable⟩
    · exact ends.sound sound
  | deleteAll typeName =>
    obtain ⟨answer, ran, same⟩ := instancesIn_cases run
    refine silent ?_ same
    rcases deleteAll_cases sound ran with ⟨_, _, looks⟩ | ⟨c, _, _, ends⟩
    · exact ⟨sound.quiet looks.toQuiet, looks.toQuiet.evolves.stable⟩
    · exact ends.sound sound
  | refreshKeys typeName keys => exact looked (refreshKeys_ends sound run)
  | refreshType typeName =>
    obtain ⟨answer, ran, rfl⟩ := instancesIn_cases run
    exact looked (refreshType_ends sound ran)

/-- A request about one type leaves the caches of the others alone. -/
theorem run_spares (sound : s.Sound) {r : Request} {typeName : String}
    (about : r.typeName? = some typeName) (run : r.run observed s = (o, s')) :
    Spares typeName s s' := by
  cases r <;> cases about
  case register t =>
    obtain ⟨answer, ran, _⟩ := instancesIn_cases run
    exact (register_ends ran).spares
  case get key policy =>
    obtain ⟨answer, ran, _⟩ := instancesIn_cases run
    exact (get_ends sound ran).spares
  case getSome keys policy => exact (getSome_ends sound run).spares
  case getAll policy => exact (getAll_ends sound run).spares
  case getSize policy =>
    obtain ⟨answer, ran, _⟩ := instancesIn_cases run
    exact (getSize_ends sound ran).spares
  case persist d =>
    obtain ⟨answer, ran, _⟩ := instancesIn_cases run
    exact persist_spares sound ran
  case deleteKeys keys =>
    obtain ⟨answer, ran, _⟩ := instancesIn_cases run
    rcases deleteKeys_cases sound ran with ⟨_, _, looks⟩ | ⟨c, _, named, ends⟩
    · exact looks.toQuiet.spares
    · exact named ▸ ends.spares
  case deleteAll =>
    obtain ⟨answer, ran, _⟩ := instancesIn_cases run
    rcases deleteAll_cases sound ran with ⟨_, _, looks⟩ | ⟨c, _, named, ends⟩
    · exact looks.toQuiet.spares
    · exact named ▸ ends.spares
  case refreshKeys keys => exact (refreshKeys_ends sound run).spares
  case refreshType =>
    obtain ⟨answer, ran, _⟩ := instancesIn_cases run
    exact (refreshType_ends sound ran).spares

end Request

end IdentityMap
