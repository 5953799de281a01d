import IdentityMap.Proofs.Store.Overwrite
import IdentityMap.Proofs.Store.Registration
/-!
# Registering again

Creating the table and the indexes of a type is a row of statements, and a failure can stop it
after any of them. What was created stays. A second attempt starts over: creating a table tolerates
that it is there, creating an index does not. So a registration that failed can be repeated if none
of the indexes is there yet, and only then (`Store.registration_repeated`).
-/

namespace IdentityMap

variable {σ τ : Type} [RowStore σ]

namespace Sql.Command

/-- The command creates a table. -/
def createsTable : Command → Bool
  | .createTable .. => true
  | _ => false

/-- The name of the index that the command creates. -/
def indexName? : Command → Option String
  | .createIndex name .. => some name
  | _ => none

end Sql.Command

/-- A row store with named indexes: `known` says which names it has. While it `works`, a call fails
only for a reason that lies in the call. That a table is there already is no such reason, that an
index of the name is there is one. A call that fails creates no index. -/
structure RowStore.NamesIndexes (known : σ → String → Prop) (works : σ → Prop) : Prop where
  reports : RowStore.ReportsBackend σ
  table_known : ∀ s (rows : σ), s.command.createsTable = true →
    ∀ n, known (RowStore.execute s [] rows).2 n ↔ known rows n
  table_works : ∀ s (rows : σ), s.command.createsTable = true → works rows →
    ∃ met next, RowStore.execute s [] rows = (.ok met, next) ∧ works next
  index_failed : ∀ s (rows : σ) name e, s.command.indexName? = some name →
    (RowStore.execute s [] rows).1 = .error e →
      ∀ n, known (RowStore.execute s [] rows).2 n ↔ known rows n
  index_made : ∀ s (rows : σ) name met, s.command.indexName? = some name →
    (RowStore.execute s [] rows).1 = .ok met →
      ¬ known rows name ∧ ∀ n, known (RowStore.execute s [] rows).2 n ↔ known rows n ∨ n = name
  index_works : ∀ s (rows : σ) name, s.command.indexName? = some name → works rows →
    ¬ known rows name → ∃ met next, RowStore.execute s [] rows = (.ok met, next) ∧ works next

/-! ### Rows of statements -/

namespace RowStore.NamesIndexes

variable {known : σ → String → Prop} {works : σ → Prop} {d : Sql.Dialect} {m : TableMapping}
  {g g' : Gateway σ} {o : Except Error Unit}

/-- Up to the first failure every index is made, and its name was free. -/
theorem indexes_made (named : NamesIndexes known works) {indexes : List Index}
    (run : Access.executeAll (indexes.map (d.indexStatement m)) g = (o, g')) :
    ∃ made rest, indexes = made ++ rest ∧ (o = .ok () ↔ rest = []) ∧
      (∀ index ∈ made, ¬ known g.rows index.name) ∧
      ∀ n, known g'.rows n ↔ known g.rows n ∨ n ∈ made.map (·.name) := by
  induction indexes generalizing g with
  | nil =>
    obtain ⟨rfl, rfl⟩ := pure_cases run
    exact ⟨[], [], rfl, by simp, by simp, by simp⟩
  | cons index indexes ih =>
    have command : (d.indexStatement m index).command.indexName? = some index.name := rfl
    rcases first : RowStore.execute (d.indexStatement m index) [] g.rows with ⟨e | met, rows⟩
    · have same := named.index_failed _ g.rows _ e command (congrArg Prod.fst first)
      rw [first] at same
      rw [List.map_cons, Access.executeAll_of_error first] at run
      cases run
      exact ⟨[], index :: indexes, rfl, by simp, by simp, by simpa using same⟩
    · obtain ⟨free, added⟩ := named.index_made _ g.rows _ met command
        (congrArg Prod.fst first)
      rw [first] at added
      rw [List.map_cons, Access.executeAll_of_ok first] at run
      obtain ⟨made, rest, rfl, done, fresh, after⟩ := ih run
      refine ⟨index :: made, rest, rfl, done, ?_, fun n => ?_⟩
      · intro other listed
        rcases List.mem_cons.1 listed with rfl | listed
        · exact free
        · exact fun there => fresh other listed ((added other.name).2 (.inl there))
      · rw [after n, added n, List.map_cons, List.mem_cons, or_assoc]

/-- A row store that works makes indexes with new names. -/
theorem indexes_work (named : NamesIndexes known works) {indexes : List Index}
    (working : works g.rows) (distinct : (indexes.map (·.name)).Nodup)
    (fresh : ∀ index ∈ indexes, ¬ known g.rows index.name) :
    (Access.executeAll (indexes.map (d.indexStatement m)) g).1 = .ok () := by
  induction indexes generalizing g with
  | nil => rfl
  | cons index indexes ih =>
    have command : (d.indexStatement m index).command.indexName? = some index.name := rfl
    obtain ⟨others, distinct⟩ := List.nodup_cons.1 distinct
    obtain ⟨met, next, first, working⟩ := named.index_works _ g.rows _ command working
      (fresh index List.mem_cons_self)
    have added := (named.index_made _ g.rows _ met command (congrArg Prod.fst first)).2
    rw [first] at added
    rw [List.map_cons, Access.executeAll_of_ok first]
    refine ih working distinct fun other listed => ?_
    rw [added other.name, not_or]
    refine ⟨fresh other (List.mem_cons_of_mem _ listed), fun same => ?_⟩
    exact others (List.mem_map.2 ⟨other, listed, same⟩)

/-- A row store that works still does when all statements for a table and some indexes are done. -/
theorem works_indexes (named : NamesIndexes known works) {indexes : List Index}
    (working : works g.rows)
    (made : Access.executeAll (indexes.map (d.indexStatement m)) g = (.ok (), g')) :
    works g'.rows := by
  induction indexes generalizing g with
  | nil =>
    obtain ⟨-, rfl⟩ := pure_cases made
    exact working
  | cons index indexes ih =>
    have command : (d.indexStatement m index).command.indexName? = some index.name := rfl
    rcases first : RowStore.execute (d.indexStatement m index) [] g.rows with ⟨e | met, rows⟩
    · rw [List.map_cons, Access.executeAll_of_error first] at made
      cases made
    · have free := (named.index_made _ g.rows _ met command (congrArg Prod.fst first)).1
      obtain ⟨_, next, again, working⟩ := named.index_works _ g.rows _ command working free
      rw [List.map_cons, Access.executeAll_of_ok first] at made
      rw [first] at again
      cases again
      exact ih working made

omit [RowStore σ] in
/-- An index is not named like one before it. -/
theorem not_mem_take_names {indexes : List Index} {k : Nat} {index : Index}
    (distinct : (indexes.map (·.name)).Nodup) (placed : indexes[k]? = some index) :
    index.name ∉ (indexes.take k).map (·.name) := by
  obtain ⟨within, rfl⟩ := List.getElem?_eq_some_iff.1 placed
  rw [← List.take_append_drop k indexes, List.drop_eq_getElem_cons within, List.map_append,
    List.map_cons] at distinct
  exact fun before => (List.nodup_append.1 distinct).2.2 _ before _ List.mem_cons_self rfl

/-- Where the statements for a table and its indexes are stopped, the indexes before are made. In a
row store that works it is an index that stops them, and it was there already. -/
theorem schema_stopped (named : NamesIndexes known works) {done : Nat} {next : Sql.Statement}
    {e : Error} (stopped : Access.StopsAt (d.schemaStatements m) g g' done next e) :
    (∀ n, known g'.rows n ↔
      known g.rows n ∨ n ∈ (m.entityType.indexes.take (done - 1)).map (·.name)) ∧
    (works g.rows → (m.entityType.indexes.map (·.name)).Nodup →
      ∃ index ∈ m.entityType.indexes, next = d.indexStatement m index ∧
        known g.rows index.name) := by
  obtain ⟨placed, g₁, before, failed⟩ := stopped
  have failed := (Access.call_cases failed).1
  have table := named.table_known (d.createTable m) g.rows rfl
  have tableWorks := named.table_works (d.createTable m) g.rows rfl
  cases done with
  | zero =>
    obtain ⟨-, rfl⟩ := pure_cases before
    cases placed
    rw [failed] at table tableWorks
    refine ⟨fun n => by simp [table n], fun working _ => ?_⟩
    obtain ⟨_, _, impossible, _⟩ := tableWorks working
    cases impossible
  | succ k =>
    obtain ⟨index, there, rfl⟩ : ∃ index, m.entityType.indexes[k]? = some index ∧
        d.indexStatement m index = next := by
      simpa [Sql.Dialect.schemaStatements] using placed
    have command : (d.indexStatement m index).command.indexName? = some index.name := rfl
    rw [Sql.Dialect.schemaStatements, List.take_succ_cons, ← List.map_take] at before
    rcases first : RowStore.execute (d.createTable m) [] g.rows with ⟨e₁ | met, rows⟩
    · rw [Access.executeAll_of_error first] at before
      cases before
    rw [first] at table tableWorks
    rw [Access.executeAll_of_ok first] at before
    obtain ⟨made, rest, parts, complete, _, added⟩ := named.indexes_made before
    rw [complete.1 rfl, List.append_nil] at parts
    subst parts
    have kept := named.index_failed _ _ _ _ command (congrArg Prod.fst failed)
    rw [failed] at kept
    refine ⟨fun n => ?_, fun working distinct => ⟨index, List.mem_of_getElem? there, rfl, ?_⟩⟩
    · rw [kept n, added n, table n, Nat.add_sub_cancel]
    · obtain ⟨_, _, again, working⟩ := tableWorks working
      cases again
      have working := named.works_indexes working before
      by_contra free
      have new : ¬ known g₁.rows index.name := by
        rw [added index.name, table index.name, not_or]
        exact ⟨free, not_mem_take_names distinct there⟩
      obtain ⟨_, _, impossible, _⟩ := named.index_works _ _ _ command working new
      cases failed.symm.trans impossible

/-- A row store that works creates a table with indexes of distinct names if and only if none of the
names is taken. -/
theorem schema_works (named : NamesIndexes known works) (working : works g.rows)
    (distinct : (m.entityType.indexes.map (·.name)).Nodup) :
    (Access.executeAll (d.schemaStatements m) g).1 = .ok () ↔
      ∀ index ∈ m.entityType.indexes, ¬ known g.rows index.name := by
  have same := named.table_known (d.createTable m) g.rows rfl
  obtain ⟨met, next, first, working⟩ := named.table_works (d.createTable m) g.rows rfl working
  rw [first] at same
  rw [Sql.Dialect.schemaStatements, Access.executeAll_of_ok first]
  constructor
  · intro created index listed there
    obtain ⟨made, rest, parts, complete, fresh, _⟩ := named.indexes_made (Prod.ext created rfl)
    rw [complete.1 rfl, List.append_nil] at parts
    exact fresh index (parts ▸ listed) ((same index.name).2 there)
  · intro fresh
    exact named.indexes_work working distinct fun index listed there =>
      fresh index listed ((same index.name).1 there)

end RowStore.NamesIndexes

/-! ### Stores -/

namespace Store

variable [TriggerHost τ] {known : σ → String → Prop} {works : σ → Prop} {s : Store σ τ}
  {t : EntityType}

open Session

/-- A registration that fails in the row store has run the statements of the table up to there. -/
theorem register_stopped (paired : s.session.Paired) (delivered : s.session.outbox = [])
    {operation reason : String}
    (failed : (s.ask (.register t)).1 = .error (.backend operation reason)) :
    s.session.caches.get? t.name = none ∧
      t.indexes.find? s.session.gateway.dialect.lacks = none ∧
      ∃ g, Access.executeAll (s.session.gateway.dialect.schemaStatements ⟨t⟩) s.session.gateway
          = (.error (.backend operation reason), g) ∧
        (s.ask (.register t)).2 = { s with session := { s.session with gateway := g } } := by
  rcases ran : Session.register t s.session with ⟨o, u⟩
  have ends := register_registering paired t ran
  have untold : u.outbox = [] := by
    rw [← delivered]
    cases ends <;> rfl
  have asked := ask_register t ran untold
  rw [asked] at failed ⊢
  cases ends with
  | uncreated e g free expressible stopped =>
    cases failed
    exact ⟨free, expressible, g, stopped, rfl⟩
  | _ => cases failed

/-- While the row store works, a type whose name is free is registered if and only if none of its
indexes is there. What keeps it from being registered is a failure of the row store, at an index
that is there. -/
theorem register_again (named : RowStore.NamesIndexes known works) (paired : s.session.Paired)
    (delivered : s.session.outbox = []) (tabled : s.session.settings.createTables = true)
    (free : s.session.caches.get? t.name = none)
    (expressible : t.indexes.find? s.session.gateway.dialect.lacks = none)
    (distinct : (t.indexes.map (·.name)).Nodup) (working : works s.session.gateway.rows) :
    let d := s.session.gateway.dialect
    let again := s.ask (.register t)
    (again.1 = .ok [] ↔ ∀ index ∈ t.indexes, ¬ known s.session.gateway.rows index.name) ∧
      (again.1 = .ok [] → again.2.session.caches.get? t.name = some (.new t)) ∧
      (again.1 ≠ .ok [] →
        (∃ e done, ∃ index ∈ t.indexes, again.1 = .error e ∧ e.isBackend = true ∧
          Access.StopsAt (d.schemaStatements ⟨t⟩) s.session.gateway again.2.session.gateway done
            (d.indexStatement ⟨t⟩ index) e ∧
          known s.session.gateway.rows index.name) ∧
        again.2.session.caches = s.session.caches ∧
        again.2.session.catalog = s.session.catalog) := by
  have created := named.schema_works (d := s.session.gateway.dialect) (m := ⟨t⟩)
    (g := s.session.gateway) working distinct
  rcases ran : Session.register t s.session with ⟨o, u⟩
  have ends := register_registering paired t ran
  have untold : u.outbox = [] := by
    rw [← delivered]
    cases ends <;> rfl
  dsimp only
  rw [ask_register t ran untold, ← created]
  cases ends with
  | taken registered => simp [OrderedMap.contains, free] at registered
  | untabled _ untabled => simp [tabled] at untabled
  | lacking index _ _ lacking => simp [expressible] at lacking
  | uncreated e g _ _ stopped =>
    obtain ⟨done, next, stops⟩ := Access.exists_stopsAt stopped
    obtain ⟨index, listed, rfl, there⟩ := (named.schema_stopped stops).2 working distinct
    have backend := Access.executeAll_isBackend named.reports stopped
    exact ⟨by simp [stopped, Except.map], fun impossible => (by cases impossible),
      fun _ => ⟨⟨e, done, index, listed, rfl, backend, stops, there⟩, rfl, rfl⟩⟩
  | created g _ _ done =>
    exact ⟨by simp [done, Except.map], fun _ => OrderedMap.get?_insert_self _ _ _,
      fun unmade => absurd rfl unmade⟩

/-- A registration that fails in the row store has changed neither registry. The statements before
the one that failed were done, for the table and then for the first indexes, and just these indexes
were added. Once the row store works, on the indexes that it was left with, registering again
succeeds if and only if there is no index yet: none was there at first, and the failure came at the
table or at the first index. Otherwise it fails again, at an index that is there. -/
theorem registration_repeated (named : RowStore.NamesIndexes known works) (reachable : s.Reachable)
    (tabled : s.session.settings.createTables = true)
    (distinct : (t.indexes.map (·.name)).Nodup) {operation reason : String}
    (failed : (s.ask (.register t)).1 = .error (.backend operation reason)) :
    let d := s.session.gateway.dialect
    let left := (s.ask (.register t)).2
    left.session.caches = s.session.caches ∧ left.session.catalog = s.session.catalog ∧
    ∃ done next, Access.StopsAt (d.schemaStatements ⟨t⟩) s.session.gateway left.session.gateway done
        next (.backend operation reason) ∧
      (∀ n, known left.session.gateway.rows n ↔
        known s.session.gateway.rows n ∨ n ∈ (t.indexes.take (done - 1)).map (·.name)) ∧
      ∀ rows, works rows → (∀ n, known rows n ↔ known left.session.gateway.rows n) →
        let restored := left.withRows rows
        let again := restored.ask (.register t)
        (again.1 = .ok [] ↔
          done ≤ 1 ∧ ∀ index ∈ t.indexes, ¬ known s.session.gateway.rows index.name) ∧
        (again.1 = .ok [] → again.2.session.caches.get? t.name = some (.new t)) ∧
        (again.1 ≠ .ok [] →
          (∃ e done, ∃ index ∈ t.indexes, again.1 = .error e ∧ e.isBackend = true ∧
            Access.StopsAt (d.schemaStatements ⟨t⟩) restored.session.gateway
              again.2.session.gateway done (d.indexStatement ⟨t⟩ index) e ∧
            known rows index.name) ∧
          again.2.session.caches = s.session.caches ∧
          again.2.session.catalog = s.session.catalog) := by
  have paired := reachable.paired named.reports
  obtain ⟨free, expressible, g, stopped, after⟩ := register_stopped paired reachable.outbox failed
  obtain ⟨done, next, stops⟩ := Access.exists_stopsAt stopped
  have added := (named.schema_stopped stops).1
  have within : done < t.indexes.length + 1 := by
    have placed := (List.getElem?_eq_some_iff.1 stops.placed).1
    simpa [Sql.Dialect.schemaStatements] using placed
  have dialect := Access.executeAll_dialect stopped
  dsimp only
  rw [after]
  refine ⟨rfl, rfl, done, next, stops, added, fun rows working same => ?_⟩
  have again := register_again (t := t)
    (s := withRows rows { s with session := { s.session with gateway := g } }) named paired
    reachable.outbox tabled free (by rwa [← dialect] at expressible) distinct working
  rw [← dialect]
  refine ⟨again.1.trans ⟨fun fresh => ⟨?_, fun index listed there => ?_⟩, ?_⟩, again.2⟩
  · by_contra more
    have some : 0 < (t.indexes.take (done - 1)).length := by
      rw [List.length_take]
      omega
    obtain ⟨index, made⟩ := List.exists_mem_of_length_pos some
    exact fresh index (List.mem_of_mem_take made)
      ((same _).2 ((added _).2 (.inr (List.mem_map.2 ⟨index, made, rfl⟩))))
  · exact fresh index listed ((same _).2 ((added _).2 (.inl there)))
  · rintro ⟨few, fresh⟩ index listed there
    rcases (added _).1 ((same _).1 there) with before | made
    · exact fresh index listed before
    · simp [Nat.sub_eq_zero_of_le few] at made

end Store

/-! ### A row store of index names -/

/-- A row store that keeps nothing but the names of its indexes. -/
structure IndexNames where
  names : List String := []
  /-- Whether the next calls fail; calls after the last one in the list do not. -/
  faults : List Bool := []

namespace IndexNames

/-- Run a command, unless a fault is due. -/
def run (command : Sql.Command) (r : IndexNames) : Except Error Nat × IndexNames :=
  let next := { r with faults := r.faults.tail }
  if r.faults.headD false then (.error (.backend "execute" "unavailable"), next)
  else
    match command.indexName? with
    | none => (.ok 0, next)
    | some name =>
      if name ∈ r.names then (.error (.backend "execute" ("index " ++ name ++ " exists")), next)
      else (.ok 0, { next with names := r.names ++ [name] })

instance : RowStore IndexNames where
  query _ _ r := (.error (.backend "query" "no rows are kept"), r)
  execute s _ := run s.command
  executeBatch _ _ r := (.error (.backend "execute batch" "no rows are kept"), r)
  insertReturningKey _ _ r := (.error (.backend "insert" "no rows are kept"), r)

/-- A call fails because it is to fail or its index is there; otherwise it may make an index. -/
theorem run_cases (command : Sql.Command) (r : IndexNames) :
    (∃ operation reason, (run command r).1 = .error (.backend operation reason) ∧
      (run command r).2.names = r.names ∧
      (r.faults = [] → ∃ name ∈ r.names, command.indexName? = some name)) ∨
    (run command r).1 = .ok 0 ∧ (run command r).2.faults = r.faults.tail ∧
      (command.indexName? = none ∧ (run command r).2.names = r.names ∨
        ∃ name, command.indexName? = some name ∧ name ∉ r.names ∧
          (run command r).2.names = r.names ++ [name]) := by
  unfold run
  dsimp only
  split
  · rename_i due
    exact .inl ⟨_, _, rfl, rfl, fun none => by simp [none] at due⟩
  · split
    · rename_i other
      exact .inr ⟨rfl, rfl, .inl ⟨other, rfl⟩⟩
    · rename_i name named
      split <;> rename_i there
      · exact .inl ⟨_, _, rfl, rfl, fun _ => ⟨name, there, named⟩⟩
      · exact .inr ⟨rfl, rfl, .inr ⟨name, named, there, rfl⟩⟩

theorem createsTable_unnamed {command : Sql.Command} (creates : command.createsTable = true) :
    command.indexName? = none := by
  cases command with
  | createTable => rfl
  | _ => cases creates

theorem reportsBackend : RowStore.ReportsBackend IndexNames where
  query _ _ _ e failed := by cases failed; rfl
  executeBatch _ _ _ e failed := by cases failed; rfl
  insertReturningKey _ _ _ e failed := by cases failed; rfl
  execute s params r e failed := by
    rcases run_cases s.command r with ⟨_, _, outcome, _⟩ | ⟨outcome, _⟩ <;>
      cases outcome.symm.trans failed
    rfl

/-- It keeps track of its indexes as it should, and works when no more calls are to fail. -/
theorem namesIndexes : RowStore.NamesIndexes (fun (r : IndexNames) n => n ∈ r.names)
    (fun r => r.faults = []) where
  reports := reportsBackend
  table_known s r creates n := by
    have unnamed := createsTable_unnamed creates
    show n ∈ (run s.command r).2.names ↔ n ∈ r.names
    rcases run_cases s.command r with ⟨_, _, _, same, _⟩ | ⟨_, _, ⟨_, same⟩ | ⟨name, named, _⟩⟩
    · rw [same]
    · rw [same]
    · cases unnamed.symm.trans named
  table_works s r creates none := by
    have unnamed := createsTable_unnamed creates
    rcases run_cases s.command r with ⟨_, _, _, _, reason⟩ | ⟨done, faults, _⟩
    · obtain ⟨name, _, named⟩ := reason none
      cases unnamed.symm.trans named
    · exact ⟨0, (run s.command r).2, Prod.ext done rfl, by rw [faults, none]; rfl⟩
  index_failed s r name e named failed n := by
    show n ∈ (run s.command r).2.names ↔ n ∈ r.names
    rcases run_cases s.command r with ⟨_, _, _, same, _⟩ | ⟨outcome, _⟩
    · rw [same]
    · cases outcome.symm.trans failed
  index_made s r name met named made := by
    show name ∉ r.names ∧ ∀ n, n ∈ (run s.command r).2.names ↔ n ∈ r.names ∨ n = name
    rcases run_cases s.command r with ⟨_, _, outcome, _⟩ |
      ⟨_, _, ⟨unnamed, _⟩ | ⟨other, named', free, added⟩⟩
    · cases outcome.symm.trans made
    · cases unnamed.symm.trans named
    · cases named'.symm.trans named
      exact ⟨free, fun n => by rw [added, List.mem_append, List.mem_singleton]⟩
  index_works s r name named none free := by
    rcases run_cases s.command r with ⟨_, _, _, _, reason⟩ | ⟨done, faults, _⟩
    · obtain ⟨other, there, named'⟩ := reason none
      cases named'.symm.trans named
      exact absurd there free
    · exact ⟨0, (run s.command r).2, Prod.ext done rfl, by rw [faults, none]; rfl⟩

end IndexNames

namespace Sample

/-- Gauges with two indexes. -/
def indexedGauge : EntityType where
  toSchema := { gauge.toSchema with
    indexes := [⟨"by_level", ["level"], false, false⟩, ⟨"by_both", ["id", "level"], true, false⟩] }
  wellFormed := {
    gauge.wellFormed with
    indexes := by
      intro index listed
      rcases List.mem_cons.1 listed with rfl | listed
      · exact ⟨by decide, by decide, by decide⟩
      · obtain rfl := List.mem_singleton.1 listed
        exact ⟨by decide, by decide, by decide⟩ }

/-- A store in front of a row store without indexes, of which some calls fail. -/
def indexing (faults : List Bool) : Store IndexNames ScriptedHost where
  session := {
    settings := { dialect := .sqlite }
    gateway := { dialect := Sql.DialectKind.sqlite.dialect, rows := { faults } } }
  host := {}

theorem reachable_indexing (faults : List Bool) : (indexing faults).Reachable :=
  ⟨Sql.DialectKind.sqlite.dialect, { dialect := .sqlite }, { faults }, {}, indexing faults, [],
    rfl, rfl⟩

end Sample

namespace Store

/-- The first index cannot be made at first: the registration is repeated with success. -/
theorem registration_repeated_gauge :
    let left := ((Sample.indexing [false, true]).ask (.register Sample.indexedGauge)).2
    ((Sample.indexing [false, true]).ask (.register Sample.indexedGauge)).1
        = .error (.backend "execute" "unavailable") ∧
      left.session.caches.get? "Gauge" = none ∧ left.session.gateway.rows.faults = [] ∧
      (left.ask (.register Sample.indexedGauge)).1 = .ok [] ∧
      (left.ask (.register Sample.indexedGauge)).2.session.caches.get? "Gauge"
        = some (.new Sample.indexedGauge) := by
  intro left
  have failed : ((Sample.indexing [false, true]).ask (.register Sample.indexedGauge)).1
      = .error (.backend "execute" "unavailable") := by decide +kernel
  have none : left.session.gateway.rows.names = [] := by decide +kernel
  have working : left.session.gateway.rows.faults = [] := by decide +kernel
  obtain ⟨caches, -, done, next, stops, made, again⟩ := registration_repeated
    IndexNames.namesIndexes (Sample.reachable_indexing _) rfl (by decide) failed
  have few : done ≤ 1 := by
    by_contra more
    obtain ⟨k, rfl⟩ : ∃ k, done = k + 2 := ⟨done - 2, by omega⟩
    have first := (made "by_level").2 (.inr (by simp [Sample.indexedGauge]))
    change "by_level" ∈ left.session.gateway.rows.names at first
    simp [none] at first
  obtain ⟨repeated, registered, -⟩ := again _ working fun _ => Iff.rfl
  have done := repeated.2 ⟨few, fun _ _ there => List.not_mem_nil there⟩
  refine ⟨failed, ?_, working, done, registered done⟩
  show left.session.caches.get? "Gauge" = _
  rw [caches]
  rfl

/-- The second index cannot be made at first: the first one is in the way from then on. -/
theorem registration_blocked_by_index :
    let s := Sample.indexing [false, false, true]
    let left := (s.ask (.register Sample.indexedGauge)).2
    RowStore.NamesIndexes (fun (r : IndexNames) n => n ∈ r.names) (fun r => r.faults = []) ∧
      s.Reachable ∧ (Sample.indexedGauge.indexes.map (·.name)).Nodup ∧
      (∀ index ∈ Sample.indexedGauge.indexes, index.clustered = false) ∧
      (s.ask (.register Sample.indexedGauge)).1 = .error (.backend "execute" "unavailable") ∧
      left.session.gateway.rows.faults = [] ∧
      (left.ask (.register Sample.indexedGauge)).1
        = .error (.backend "execute" "index by_level exists") := by
  refine ⟨IndexNames.namesIndexes, Sample.reachable_indexing _, ?_⟩
  decide +kernel

end Store

end IdentityMap
