import IdentityMap.Proofs.OrderedMapLookup
import IdentityMap.Row
/-!
# Reading rows

A row whose columns are those of a mapping, in order, is read field by field, each from its own
column; this is where it matters that no two columns go by names that a row store takes for one.
-/

namespace IdentityMap

variable {t : EntityType} {r record : Record}

/-! ### Columns -/

theorem Row.valueIn_own {name : Column → String} {g : Column → Value} {columns : List Column}
    (apart : columns.Pairwise fun c d => ¬ sameColumn (name c) (name d)) {c : Column}
    (member : c ∈ columns) :
    Row.valueIn (name c) (columns.map name) (columns.map g) = some (g c) := by
  induction columns with
  | nil => cases member
  | cons d rest ih =>
    obtain ⟨others, apart⟩ := List.pairwise_cons.1 apart
    rw [List.map_cons, List.map_cons, valueIn]
    rcases List.mem_cons.1 member with rfl | member
    · rw [if_pos (show sameColumn (name c) (name c) from rfl)]
      rfl
    · rw [if_neg (others c member)]
      exact ih apart member

/-- What is found under a name is one of the values. -/
theorem Row.mem_values_of_byName? {row : Row} {name : String} {v : Value}
    (found : row.byName? name = some v) : v ∈ row.values := by
  obtain ⟨columns, values⟩ := row
  unfold byName? at found
  induction columns generalizing values with
  | nil => cases found
  | cons column rest ih =>
    simp only [valueIn] at found
    split at found
    · exact List.mem_of_head? found
    · exact List.mem_of_mem_tail (ih _ found)

/-- Elements of a list that differ in some respect are the same if they do not. -/
theorem eq_of_apart {α β : Type} {name : α → β} {l : List α}
    (apart : l.Pairwise fun a b => name a ≠ name b) {a b : α} (here : a ∈ l) (there : b ∈ l)
    (same : name a = name b) : a = b :=
  List.Pairwise.forall_of_forall_of_flip (R := fun a b => name a = name b → a = b)
    (fun _ _ _ => rfl) (apart.imp fun differ same => absurd same differ)
    (apart.imp fun differ same => absurd same.symm differ) here there same

/-- What is sought by something that it shares with no other element is found. -/
theorem find?_of_apart {α β : Type} {name : α → β} {l : List α}
    (apart : l.Pairwise fun a b => name a ≠ name b) {a : α} (listed : a ∈ l) {sought : α → Bool}
    (meets : sought a = true) (only : ∀ b, sought b = true → name b = name a) :
    l.find? sought = some a := by
  cases found : l.find? sought with
  | none => exact absurd meets (List.find?_eq_none.1 found a listed)
  | some b =>
    have same := only b (List.find?_some found)
    rw [eq_of_apart apart (List.mem_of_find?_eq_some found) listed same]

/-- What is sought by something that it shares with no other element is all that is found. -/
theorem filter_of_apart {α β : Type} {name : α → β} {l : List α}
    (apart : l.Pairwise fun a b => name a ≠ name b) {a : α} (listed : a ∈ l) {sought : α → Bool}
    (meets : sought a = true) (only : ∀ b ∈ l, sought b = true → name b = name a) :
    l.filter sought = [a] := by
  induction l with
  | nil => cases listed
  | cons b rest ih =>
    obtain ⟨others, apart⟩ := List.pairwise_cons.1 apart
    rcases List.mem_cons.1 listed with rfl | listed
    · have alone : rest.filter sought = [] :=
        List.filter_eq_nil_iff.2 fun c later found =>
          others c later (only c (List.mem_cons_of_mem _ later) found).symm
      rw [List.filter_cons_of_pos meets, alone]
    · have unsought : ¬ sought b = true := fun found =>
        others a listed (only b List.mem_cons_self found)
      have rest := ih apart listed fun c later => only c (List.mem_cons_of_mem _ later)
      rw [List.filter_cons_of_neg unsought, rest]

namespace EntityType

theorem columns_apart (t : EntityType) :
    (TableMapping.mk t).columns.Pairwise fun c d => ¬ sameColumn c.name d.name :=
  List.pairwise_map.2 t.wellFormed.fields.columns

theorem fields_apart (t : EntityType) :
    (TableMapping.mk t).columns.Pairwise fun c d => c.field ≠ d.field :=
  List.pairwise_map.2 t.wellFormed.fields.names

/-- A field is known by its name. -/
theorem field_eq {f g : Field} (here : f ∈ t.fields) (there : g ∈ t.fields)
    (same : f.name = g.name) : f = g :=
  eq_of_apart t.wellFormed.fields.names here there same

/-- A field is known by its column. -/
theorem field_eq_of_column {f g : Field} (here : f ∈ t.fields) (there : g ∈ t.fields)
    (same : f.column = g.column) : f = g := by
  have apart : t.fields.Pairwise fun f g => f.column ≠ g.column :=
    t.wellFormed.fields.columns.imp fun apart same => apart (congrArg String.toLower same)
  exact eq_of_apart apart here there same

end EntityType

/-! ### Records -/

namespace Row

/-- What is read from the columns, and that all else in the record stays. -/
theorem decodeColumns_ok {table : String} {row : Row} {columns : List Column}
    (apart : columns.Pairwise fun c d => c.field ≠ d.field)
    (decoded : decodeColumns table row columns r = .ok record) :
    (∀ c ∈ columns, ∃ raw v, row.byName? c.name = some raw ∧ c.type.decode c.field raw = .ok v ∧
      record.get? c.field = some v) ∧
    ∀ name, (∀ c ∈ columns, c.field ≠ name) → record.get? name = r.get? name := by
  induction columns generalizing r with
  | nil =>
    cases decoded
    exact ⟨by simp, fun _ _ => rfl⟩
  | cons c rest ih =>
    obtain ⟨others, apart⟩ := List.pairwise_cons.1 apart
    unfold decodeColumns at decoded
    split at decoded
    · cases decoded
    · rename_i raw found
      split at decoded
      · cases decoded
      · rename_i v fits
        obtain ⟨read, kept⟩ := ih apart decoded
        refine ⟨fun d member => ?_, fun name absent => ?_⟩
        · rcases List.mem_cons.1 member with rfl | member
          · refine ⟨raw, v, found, fits, ?_⟩
            rw [kept d.field fun e listed => (others e listed).symm, OrderedMap.get?_insert_self]
          · exact read d member
        · rw [kept name fun e listed => absent e (List.mem_cons_of_mem _ listed),
            OrderedMap.get?_insert_of_ne _ _ (absent c List.mem_cons_self)]

/-- Each field of a record is read from the column that stores it. -/
theorem decode_ok {values : Column → Value}
    (decoded : Row.decode ⟨t⟩ ⟨(TableMapping.mk t).columns.map Column.name,
      (TableMapping.mk t).columns.map values⟩ = .ok record) {f : Field} (declared : f ∈ t.fields) :
    ∃ v, f.type.decode f.name (values (t.columnOf f)) = .ok v ∧ record.get? f.name = some v := by
  have member : t.columnOf f ∈ (TableMapping.mk t).columns := List.mem_map_of_mem declared
  obtain ⟨raw, v, found, fits, stored⟩ := (decodeColumns_ok t.fields_apart decoded).1 _ member
  rw [Row.byName?, valueIn_own t.columns_apart member] at found
  cases found
  exact ⟨v, fits, stored⟩

/-- The record of a row has no undeclared field. -/
theorem get?_decode_undeclared {row : Row} {name : String} (decoded : row.decode ⟨t⟩ = .ok record)
    (undeclared : ∀ f ∈ t.fields, f.name ≠ name) : record.get? name = none := by
  have columns : ∀ c ∈ (TableMapping.mk t).columns, c.field ≠ name := by
    intro c member
    obtain ⟨f, declared, rfl⟩ := List.mem_map.1 member
    exact undeclared f declared
  rw [(decodeColumns_ok t.fields_apart decoded).2 name columns]
  rfl

end Row

/-- Rows are decoded one by one. -/
theorem TableMapping.mem_decodeRows {m : TableMapping} {rows : List Row} {records : List Record}
    (decoded : m.decodeRows rows = .ok records) :
    (∀ r ∈ records, ∃ row ∈ rows, row.decode m = .ok r) ∧
      ∀ row ∈ rows, ∃ r ∈ records, row.decode m = .ok r := by
  induction rows generalizing records with
  | nil =>
    cases decoded
    simp
  | cons row rest ih =>
    unfold decodeRows at decoded
    split at decoded
    · cases decoded
    · rename_i r first
      cases others : m.decodeRows rest with
      | error e => simp [others, Except.map] at decoded
      | ok tail =>
        simp only [others, Except.map, Except.ok.injEq] at decoded
        subst decoded
        obtain ⟨back, forth⟩ := ih others
        constructor
        · intro r' member
          rcases List.mem_cons.1 member with rfl | member
          · exact ⟨row, List.mem_cons_self, first⟩
          · obtain ⟨row', listed, same⟩ := back r' member
            exact ⟨row', List.mem_cons_of_mem _ listed, same⟩
        · intro row' listed
          rcases List.mem_cons.1 listed with rfl | listed
          · exact ⟨r, List.mem_cons_self, first⟩
          · obtain ⟨r', member, same⟩ := forth row' listed
            exact ⟨r', List.mem_cons_of_mem _ member, same⟩

/-- Rows that all hold one record. -/
theorem TableMapping.decodeRows_replicate {m : TableMapping} {rows : List Row} {r : Record}
    (alike : ∀ row ∈ rows, row.decode m = .ok r) :
    m.decodeRows rows = .ok (List.replicate rows.length r) := by
  induction rows with
  | nil => rfl
  | cons row rest ih =>
    have others := ih fun row' listed => alike row' (List.mem_cons_of_mem _ listed)
    simp [decodeRows, alike row List.mem_cons_self, others, Except.map, List.replicate_succ]

end IdentityMap
