import IdentityMap.Sql.Statement
/-!
# The statements for indexes

The indexes of a type are well-formed: each covers declared fields, and a declared field has its
column. So what can keep a dialect from expressing them is clustering alone, and the statements are
given by the declarations (`Dialect.createIndexes_eq`).
-/

namespace IdentityMap.Sql.Dialect

variable {d : Dialect} {m : TableMapping}

/-- The dialect cannot express the index. -/
def lacks (d : Dialect) (index : Index) : Bool := index.clustered && !d.clusteredIndexes

/-- The error for an index that the dialect cannot express. -/
def indexRefusal (d : Dialect) (index : Index) : Error :=
  .unsupported d.name ("clustered index '" ++ index.name ++ "'")

/-- The statement for an index that the dialect can express. -/
def indexStatement (d : Dialect) (m : TableMapping) (index : Index) : Statement :=
  d.statement (.createIndex index.name m.table (columnNamesFor m index.fields) index.unique
    index.clustered) [] 1

/-- The statements that create the table of a type and its indexes, in their order. -/
def schemaStatements (d : Dialect) (m : TableMapping) : List Statement :=
  d.createTable m :: m.entityType.indexes.map (d.indexStatement m)

theorem createIndex_eq (table : String) (index : Index) (columns : List String) :
    d.createIndex table index columns =
      if d.lacks index then .error (d.indexRefusal index)
      else .ok (d.statement (.createIndex index.name table columns index.unique
        index.clustered) [] 1) := by
  simp [createIndex, lacks, indexRefusal]

/-- Every declared field has its column. -/
theorem exists_columnFor? {name : String} (declared : ∃ f ∈ m.entityType.fields, f.name = name) :
    ∃ c, m.columnFor? name = some c := by
  obtain ⟨f, listed, rfl⟩ := declared
  refine Option.isSome_iff_exists.1 (List.find?_isSome.2 ⟨m.entityType.columnOf f, ?_, ?_⟩)
  · exact List.mem_map_of_mem listed
  · simp [EntityType.columnOf]

theorem columnNamesFor_ne_nil {index : Index} (formed : index.WellFormed m.entityType.fields) :
    columnNamesFor m index.fields ≠ [] := by
  obtain ⟨name, others, covered⟩ := List.exists_cons_of_ne_nil formed.covers
  obtain ⟨c, column⟩ := exists_columnFor? (formed.declared name (covered ▸ List.mem_cons_self))
  simp [columnNamesFor, covered, column]

theorem indexColumns_eq {fields : List String}
    (declared : ∀ name ∈ fields, ∃ f ∈ m.entityType.fields, f.name = name) :
    indexColumns m fields = .ok (columnNamesFor m fields) := by
  induction fields with
  | nil => rfl
  | cons name rest ih =>
    obtain ⟨c, column⟩ := exists_columnFor? (declared _ List.mem_cons_self)
    have others := ih fun name listed => declared name (List.mem_cons_of_mem _ listed)
    simp [indexColumns, columnNamesFor, column, others, Except.map]

theorem createIndexesFrom_eq {indexes : List Index}
    (declared : ∀ index ∈ indexes, index.WellFormed m.entityType.fields) :
    d.createIndexesFrom m indexes =
      match indexes.find? d.lacks with
      | some index => .error (d.indexRefusal index)
      | none => .ok (indexes.map (d.indexStatement m)) := by
  induction indexes with
  | nil => rfl
  | cons index rest ih =>
    have columns := indexColumns_eq (declared index List.mem_cons_self).declared
    have others := ih fun index listed => declared index (List.mem_cons_of_mem _ listed)
    simp only [createIndexesFrom, columns, createIndex_eq, List.find?_cons]
    cases lacking : d.lacks index with
    | true => simp
    | false =>
      simp only [Bool.false_eq_true, if_false, others]
      split <;> rfl

/-- The indexes of a type are expressed, unless some are clustered and the dialect has no such
indexes; then the first of them is named. -/
theorem createIndexes_eq (t : EntityType) :
    d.createIndexes ⟨t⟩ =
      match t.indexes.find? d.lacks with
      | some index => .error (d.indexRefusal index)
      | none => .ok (t.indexes.map (d.indexStatement ⟨t⟩)) :=
  createIndexesFrom_eq t.wellFormed.indexes

end IdentityMap.Sql.Dialect
