import IdentityMap.Proofs.Session.Request
import IdentityMap.Proofs.Sql.Indexes
import IdentityMap.Proofs.TableErrors
/-!
# Registering a type

Registering a type can stop in three places: its name is taken, an index cannot be expressed, or the
row store fails at one of the statements that create the table and its indexes. The lemmas say what
a registration comes to in each case. Until the last statement has run neither registry has changed.
-/

namespace IdentityMap

/-! ### Creating the table -/

variable {σ : Type} [RowStore σ]

namespace Access

variable {s : Sql.Statement} {statements : List Sql.Statement} {g : Gateway σ}

theorem executeAll_of_error {e : Error} {rows : σ}
    (failed : RowStore.execute s [] g.rows = (.error e, rows)) :
    executeAll (s :: statements) g = (.error e, { g with rows, roundTrips := g.roundTrips + 1 }) :=
  bind_of_error (by rw [execute, call, failed])

theorem executeAll_of_ok {n : Nat} {rows : σ}
    (met : RowStore.execute s [] g.rows = (.ok n, rows)) :
    executeAll (s :: statements) g
      = executeAll statements { g with rows, roundTrips := g.roundTrips + 1 } :=
  bind_of_ok (by rw [execute, call, met])

theorem executeAll_dialect {o : Except Error Unit} {g' : Gateway σ}
    (run : executeAll statements g = (o, g')) : g'.dialect = g.dialect := by
  induction statements generalizing g with
  | nil => rw [(pure_cases run).2]
  | cons s rest ih =>
    rcases ran : RowStore.execute s [] g.rows with ⟨e | n, rows⟩
    · rw [executeAll_of_error ran] at run
      cases run
      rfl
    · rw [executeAll_of_ok ran] at run
      exact (ih run).trans rfl

/-- What stops a row of statements is a failure of the row store. -/
theorem executeAll_isBackend (reports : RowStore.ReportsBackend σ) {e : Error} {g' : Gateway σ}
    (failed : executeAll statements g = (.error e, g')) : e.isBackend = true := by
  induction statements generalizing g with
  | nil => cases (pure_cases failed).1
  | cons s rest ih =>
    have backend := reports.execute s [] g.rows
    rcases ran : RowStore.execute s [] g.rows with ⟨e₁ | n, rows⟩
    · rw [executeAll_of_error ran] at failed
      cases failed
      exact backend e (congrArg Prod.fst ran)
    · rw [executeAll_of_ok ran] at failed
      exact ih failed

/-- Of a row of statements so many are done, and the next one fails. -/
structure StopsAt (statements : List Sql.Statement) (g g' : Gateway σ) (done : Nat)
    (next : Sql.Statement) (e : Error) : Prop where
  placed : statements[done]? = some next
  stopped : ∃ g₁, executeAll (statements.take done) g = (.ok (), g₁) ∧
    execute next [] g₁ = (.error e, g')

theorem exists_stopsAt {e : Error} {g' : Gateway σ}
    (failed : executeAll statements g = (.error e, g')) :
    ∃ done next, StopsAt statements g g' done next e := by
  induction statements generalizing g with
  | nil => cases (pure_cases failed).1
  | cons s rest ih =>
    rcases ran : RowStore.execute s [] g.rows with ⟨e₁ | n, rows⟩
    · rw [executeAll_of_error ran] at failed
      cases failed
      exact ⟨0, s, rfl, g, rfl, by rw [execute, call, ran]⟩
    · rw [executeAll_of_ok ran] at failed
      obtain ⟨done, next, placed, g₁, before, stopped⟩ := ih failed
      exact ⟨done + 1, next, placed, g₁, by rw [List.take_succ_cons, executeAll_of_ok ran, before],
        stopped⟩

end Access

namespace TableMapping

variable {t : EntityType} {g : Gateway σ}

/-- Nothing is sent for a type with an index that the dialect cannot express. -/
theorem createSchema_of_lacking {index : Index}
    (lacking : t.indexes.find? g.dialect.lacks = some index) :
    createSchema ⟨t⟩ g = (.error (g.dialect.indexRefusal index), g) := by
  unfold createSchema
  rw [Access.dialect_bind, Sql.Dialect.createIndexes_eq, lacking]
  rfl

theorem createSchema_of_expressible (expressible : t.indexes.find? g.dialect.lacks = none) :
    createSchema ⟨t⟩ g = Access.executeAll (g.dialect.schemaStatements ⟨t⟩) g := by
  unfold createSchema
  rw [Access.dialect_bind, Sql.Dialect.createIndexes_eq, expressible, Access.ofExcept_ok_bind]
  rfl

end TableMapping

/-! ### Enrolling -/

namespace Session

variable {s : Session σ} {t : EntityType}

/-- The session with one more type. -/
def enrolled (t : EntityType) (s : Session σ) : Session σ :=
  { s with catalog := s.catalog.insert t.name ⟨t⟩, caches := s.caches.insert t.name (.new t) }

omit [RowStore σ] in
theorem enroll_of_new (noTable : s.catalog.get? t.name = none)
    (noCache : s.caches.get? t.name = none) : enroll t s = (.ok (), s.enrolled t) := by
  simp [enroll, Catalog.register, CacheSet.register, OrderedMap.contains, noTable, noCache,
    enrolled]

theorem register_of_registered (registered : s.caches.contains t.name = true) :
    register t s = (.error (.duplicateType t.name), s) := by
  unfold register
  rw [Work.get_bind]
  dsimp only
  rw [if_pos registered]
  exact bind_of_error rfl

section New

variable (noCache : s.caches.get? t.name = none)

include noCache

/-- Where the name is free and no table is to be created, nothing can go wrong. -/
theorem register_untabled (noTable : s.catalog.get? t.name = none)
    (untabled : s.settings.createTables = false) : register t s = (.ok (), s.enrolled t) := by
  unfold register
  rw [Work.get_bind]
  simp only [OrderedMap.contains, noCache, untabled, Option.isSome_none, Bool.false_eq_true,
    if_false]
  exact enroll_of_new noTable noCache

variable (tabled : s.settings.createTables = true)

include tabled

theorem register_tabled : register t s =
    (Work.access (TableMapping.createSchema ⟨t⟩) >>= fun _ => enroll t) s := by
  unfold register
  rw [Work.get_bind]
  simp only [OrderedMap.contains, noCache, tabled, Option.isSome_none, Bool.false_eq_true, if_false,
    if_true]

/-- A registration that cannot create the table changes neither registry. -/
theorem register_uncreated {e : Error} {g : Gateway σ}
    (failed : TableMapping.createSchema ⟨t⟩ s.gateway = (.error e, g)) :
    register t s = (.error e, { s with gateway := g }) := by
  rw [register_tabled noCache tabled]
  exact bind_of_error (Work.access_eq failed)

theorem register_created {g : Gateway σ} (noTable : s.catalog.get? t.name = none)
    (created : TableMapping.createSchema ⟨t⟩ s.gateway = (.ok (), g)) :
    register t s = (.ok (), { s with gateway := g }.enrolled t) := by
  rw [register_tabled noCache tabled, bind_of_ok (Work.access_eq created)]
  exact enroll_of_new noTable noCache

end New

end Session

end IdentityMap
