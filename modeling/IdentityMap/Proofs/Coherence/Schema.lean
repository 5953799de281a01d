import IdentityMap.Proofs.Coherence.Tables
/-!
# Creating the table of a type

However far the creation of a table and its indexes gets, no row comes or goes, and every table has
the key column that its type declares.
-/

namespace IdentityMap

open Sql TableMapping

variable {σ : Type} [RowStore σ] {tables : σ → Tables} {types : EntityType → Prop} {t : EntityType}
  {g g' : Gateway σ}

/-- The commands that create the table of the type and its indexes. -/
inductive Creates (t : EntityType) : Command → Prop
  | table (columns : List ColumnDef) (key : Option String)
    (declares : declaredKey columns key = t.key.column) :
    Creates t (.createTable t.table columns key)
  | index (name : String) (columns : List String) (unique clustered : Bool) :
    Creates t (.createIndex name t.table columns unique clustered)

/-- The same rows in tables with the key columns of their types. -/
structure Settled (types : EntityType → Prop) (T T' : Tables) : Prop where
  row? : ∀ name, T'.row? name = T.row? name
  keyed : Keyed types T → Keyed types T'

namespace Settled

theorem refl (types : EntityType → Prop) (T : Tables) : Settled types T T := ⟨fun _ => rfl, id⟩

theorem trans {T T₁ T' : Tables} (first : Settled types T T₁) (later : Settled types T₁ T') :
    Settled types T T' where
  row? name := (later.row? name).trans (first.row? name)
  keyed keyed := later.keyed (first.keyed keyed)

end Settled

/-! ### Statements -/

/-- The key is declared as such, or it is the column whose values are generated. -/
theorem declaredKey_columns (d : Dialect) (t : EntityType) :
    declaredKey ((TableMapping.mk t).columns.map d.columnDef)
      (if (TableMapping.mk t).keyColumn.generated then none else some t.key.column)
      = t.key.column := by
  rw [EntityType.keyColumn_generated]
  unfold declaredKey
  by_cases assigned : t.assignment = .backend
  · have first : ∀ fields : List Field, (∀ f ∈ fields, f ∈ t.fields) → t.key ∈ fields →
        ((fields.map t.columnOf).map d.columnDef).findSome? generatedName? = some t.key.column := by
      intro fields declared listed
      induction fields with
      | nil => cases listed
      | cons f rest ih =>
        rw [List.map_cons, List.map_cons, List.findSome?_cons]
        by_cases key : f.name = t.key.name
        · have here := declared f List.mem_cons_self
          obtain rfl := EntityType.field_eq here t.wellFormed.keyDeclared key
          simp [Dialect.columnDef, EntityType.columnOf, assigned, generatedName?]
        · have later : t.key ∈ rest :=
            (List.mem_cons.1 listed).resolve_left fun same => key (congrArg Field.name same).symm
          simp only [Dialect.columnDef, EntityType.columnOf, key, decide_false, Bool.false_and,
            Bool.false_eq_true, if_false, generatedName?]
          exact ih (fun g member => declared g (List.mem_cons_of_mem _ member)) later
    have found := first t.fields (fun _ listed => listed) t.wellFormed.keyDeclared
    rw [if_pos (by simp [assigned]), Option.none_or]
    exact congrArg (Option.getD · "") found
  · simp [assigned]

theorem createIndexes_creates {d : Dialect} {indexes : List Index} {statements : List Statement}
    (accepted : d.createIndexesFrom ⟨t⟩ indexes = .ok statements) :
    ∀ s ∈ statements, Creates t s.command := by
  obtain rfl := Dialect.eq_of_createIndexesFrom_eq_ok accepted
  intro s member
  obtain ⟨index, -, rfl⟩ := List.mem_map.1 member
  exact .index _ _ _ _

/-! ### Their effects -/

theorem Creates.settled (hosts : Hosts tables types) (typed : types t) {command : Command}
    (creates : Creates t command) {T T' : Tables} {params : List Value} {met : Nat}
    (effect : Effect T params met T' command) : Settled types T T' := by
  cases creates with
  | index name columns unique clustered => exact effect ▸ .refl types T
  | table columns key declares =>
    simp only [Effect] at effect
    cases there : T t.table with
    | some table =>
      rw [there] at effect
      exact effect ▸ .refl types T
    | none =>
      rw [there] at effect
      obtain rfl : T' = T.set t.table (.none (declaredKey columns key)) := effect
      refine ⟨fun name => ?_, fun keyed u typed' table found => ?_⟩
      · funext k
        by_cases same : name = t.table
        · simp [same, Tables.row?, Tables.set, there, Rows.none]
        · simp [same, Tables.row?, Tables.set]
      · unfold Tables.set at found
        split at found
        · rename_i same
          obtain rfl := hosts.apart u t typed' typed same
          cases found
          exact declares
        · exact keyed u typed' table found

theorem executeAll_settled (hosts : Hosts tables types) (typed : types t)
    {statements : List Statement} (creates : ∀ s ∈ statements, Creates t s.command)
    {o : Except Error Unit} (run : (Access.executeAll statements : Access σ Unit) g = (o, g')) :
    Settled types (tables g.rows) (tables g'.rows) := by
  induction statements generalizing g with
  | nil =>
    obtain ⟨_, rfl⟩ := pure_cases run
    exact .refl _ _
  | cons s rest ih =>
    have own := creates s List.mem_cons_self
    unfold Access.executeAll at run
    rcases bind_cases run with ⟨e, failed, _⟩ | ⟨met, g₁, executed, run₁⟩
    · have same : tables g'.rows = tables g.rows :=
        hosts.faithful.execute _ _ _ _ _ (Access.call_cases failed).1
      exact same ▸ .refl _ _
    · have effect := hosts.faithful.execute _ _ _ _ _ (Access.call_cases executed).1
      exact (own.settled hosts typed effect).trans
        (ih (fun s listed => creates s (List.mem_cons_of_mem _ listed)) run₁)

/-- The tables after the creation of a table, whether or not it has succeeded. -/
theorem createSchema_settled (hosts : Hosts tables types) (typed : types t)
    {o : Except Error Unit} (run : createSchema ⟨t⟩ g = (o, g')) :
    Settled types (tables g.rows) (tables g'.rows) := by
  unfold createSchema at run
  rw [Access.dialect_bind] at run
  rcases bind_cases run with ⟨e, failed, _⟩ | ⟨indexes, g₁, accepted, run₁⟩
  · obtain ⟨_, rfl⟩ := Access.ofExcept_cases failed
    exact .refl _ _
  · obtain ⟨built, rfl⟩ := Access.ofExcept_cases accepted
    refine executeAll_settled hosts typed (fun s member => ?_) run₁
    rcases List.mem_cons.1 member with rfl | member
    · exact .table _ _ (declaredKey_columns g.dialect t)
    · exact createIndexes_creates built.symm s member

end IdentityMap
