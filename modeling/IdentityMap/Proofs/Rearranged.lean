import IdentityMap.Proofs.Rows
import Mathlib.Data.List.Forall2
/-!
# Rows with their columns rearranged

Reading sees of a row the values that stand under the names of the mapping, and nothing else
(`Row.byName?_eq`). Where no two columns go by one name there is at most one value under each, so
the order of the columns, the case of their letters and columns that belong to no field do not
matter (`Row.Rearranged`): whatever is read, or whichever error is met, stays the same.

What is read is described by the row's own pairs of column and value (`Row.Reads`), without the
order in which the columns are gone through.
-/

namespace IdentityMap

variable {m : TableMapping} {t : EntityType}

namespace Row

/-- The values of the columns that go by the name, in their order. -/
def valuesUnder (row : Row) (name : String) : List Value :=
  (row.pairs.filter fun p => sameColumn p.1 name).map Prod.snd

/-- No two columns go by one name. -/
def Apart (row : Row) : Prop := row.columns.Pairwise fun a b => ¬ sameColumn a b

/-- The row, or what it becomes when its columns are put into another order together with their
values, are written with other cases of letters, or get columns beside them that the mapping does
not have. -/
inductive Rearranged (m : TableMapping) (row : Row) : Row → Prop
  | unchanged : Rearranged m row row
  | permuted {r r' : Row} (made : Rearranged m row r) (order : r'.pairs.Perm r.pairs) :
    Rearranged m row r'
  | recased {r r' : Row} (made : Rearranged m row r)
    (columns : List.Forall₂ sameColumn r'.columns r.columns) (values : r'.values = r.values) :
    Rearranged m row r'
  | widened {r r' : Row} (made : Rearranged m row r) (more : List (String × Value))
    (wider : r'.pairs = r.pairs ++ more)
    (unmapped : ∀ p ∈ more, ∀ c ∈ m.columns, ¬ sameColumn p.1 c.name) : Rearranged m row r'

/-- The record has exactly the fields of the type. Each is decoded from the value of a column of the
row that goes by the name of its own column and of no other field's. -/
structure Reads (t : EntityType) (row : Row) (record : Record) : Prop where
  read : ∀ f ∈ t.fields, ∃ column raw v, (column, raw) ∈ row.pairs ∧
    (∀ g ∈ t.fields, sameColumn column g.column ↔ g = f) ∧ f.type.decode f.name raw = .ok v ∧
    record.get? f.name = some v
  only : ∀ name, (∀ f ∈ t.fields, f.name ≠ name) → record.get? name = none

variable {row row' : Row} {r record : Record} {name : String}

/-! ### The values under a name -/

/-- A row is read by the first value under a name. -/
theorem byName?_eq (row : Row) (name : String) :
    row.byName? name = (row.valuesUnder name).head? := by
  obtain ⟨columns, values⟩ := row
  simp only [byName?, valuesUnder, pairs]
  induction columns generalizing values with
  | nil => rfl
  | cons column columns ih =>
    rw [valueIn]
    cases values with
    | nil =>
      have beyond := ih []
      simp only [List.zip_nil_right] at beyond ⊢
      split
      · rfl
      · exact beyond
    | cons v values =>
      rw [List.zip_cons_cons, List.filter_cons]
      by_cases own : sameColumn column name
      · simp [own]
      · simpa [own] using ih values

theorem mem_valuesUnder {raw : Value} :
    raw ∈ row.valuesUnder name ↔ ∃ column, (column, raw) ∈ row.pairs ∧ sameColumn column name := by
  simp [valuesUnder]

/-- Elements that agree in some respect, in a list whose elements all differ in it. -/
theorem length_le_one_of_apart {α β : Type} {f : α → β} {l : List α}
    (apart : l.Pairwise fun a b => f a ≠ f b) {x : β} (agree : ∀ a ∈ l, f a = x) :
    l.length ≤ 1 := by
  match l with
  | [] | [_] => simp
  | a :: b :: rest =>
    have differ := (List.pairwise_cons.1 apart).1 b (by simp)
    exact absurd ((agree a (by simp)).trans (agree b (by simp)).symm) differ

theorem eq_of_perm_short {α : Type} {l l' : List α} (order : l.Perm l') (short : l'.length ≤ 1) :
    l = l' := by
  rcases Nat.le_one_iff_eq_zero_or_eq_one.1 short with none | one
  · obtain rfl := List.length_eq_zero_iff.1 none
    exact order.eq_nil
  · obtain ⟨a, rfl⟩ := List.length_eq_one_iff.1 one
    exact List.perm_singleton.1 order

theorem Apart.pairs (apart : row.Apart) :
    row.pairs.Pairwise fun p q => ¬ sameColumn p.1 q.1 := by
  obtain ⟨columns, values⟩ := row
  simp only [Apart, Row.pairs] at apart ⊢
  induction columns generalizing values with
  | nil => simp
  | cons column columns ih =>
    cases values with
    | nil => simp
    | cons v values =>
      obtain ⟨others, apart⟩ := List.pairwise_cons.1 apart
      rw [List.zip_cons_cons, List.pairwise_cons]
      exact ⟨fun p listed => others p.1 (List.of_mem_zip listed).1, ih values apart⟩

theorem Apart.length_valuesUnder (apart : row.Apart) (name : String) :
    (row.valuesUnder name).length ≤ 1 := by
  rw [valuesUnder, List.length_map]
  refine length_le_one_of_apart (f := fun p : String × Value => p.1.toLower)
    (x := name.toLower) (apart.pairs.filter _) fun p listed => ?_
  exact of_decide_eq_true (List.mem_filter.1 listed).2

/-- There is one value under the name of a column. -/
theorem Apart.valuesUnder_eq (apart : row.Apart) {column : String} {raw : Value}
    (listed : (column, raw) ∈ row.pairs) (own : sameColumn column name) :
    row.valuesUnder name = [raw] := by
  have member := mem_valuesUnder.2 ⟨column, listed, own⟩
  obtain ⟨only, single⟩ := List.length_eq_one_iff.1
    (Nat.le_antisymm (apart.length_valuesUnder name) (List.length_pos_of_mem member))
  rw [single] at member ⊢
  rw [List.mem_singleton.1 member]

/-! ### Rearranged rows -/

theorem valuesUnder_recased (columns : List.Forall₂ sameColumn row'.columns row.columns)
    (values : row'.values = row.values) (name : String) :
    row'.valuesUnder name = row.valuesUnder name := by
  obtain ⟨names, vs⟩ := row
  obtain ⟨names', vs'⟩ := row'
  obtain rfl : vs' = vs := values
  simp only [valuesUnder, pairs] at columns ⊢
  induction columns generalizing vs' with
  | nil => rfl
  | @cons a b rest rest' same _ ih =>
    cases vs' with
    | nil => rfl
    | cons v vs' =>
      have alike : sameColumn a name ↔ sameColumn b name := by
        unfold sameColumn at same ⊢
        rw [same]
      simp only [List.zip_cons_cons, List.filter_cons, alike]
      split
      · rw [List.map_cons, List.map_cons, ih]
      · exact ih vs'

/-- Whatever is done to the columns of a row, the same value stands under each mapped name. -/
theorem Rearranged.valuesUnder_eq (made : row.Rearranged m row') (apart : row.Apart) {c : Column}
    (mapped : c ∈ m.columns) : row'.valuesUnder c.name = row.valuesUnder c.name := by
  induction made with
  | unchanged => rfl
  | @permuted r r' _ order ih =>
    have shuffled : (r'.valuesUnder c.name).Perm (row.valuesUnder c.name) :=
      ih ▸ (order.filter _).map _
    exact eq_of_perm_short shuffled (apart.length_valuesUnder c.name)
  | recased _ columns values ih => exact (valuesUnder_recased columns values c.name).trans ih
  | @widened r r' _ more wider unmapped ih =>
    have others : more.filter (fun p => sameColumn p.1 c.name) = [] :=
      List.filter_eq_nil_iff.2 fun p listed own =>
        unmapped p listed c mapped (of_decide_eq_true own)
    have under : r'.valuesUnder c.name = r.valuesUnder c.name := by
      simp only [valuesUnder, wider, List.filter_append, others, List.append_nil]
    exact under.trans ih

/-! ### Reading by name -/

theorem decodeColumns_congr {table : String} {columns : List Column}
    (alike : ∀ c ∈ columns, row'.byName? c.name = row.byName? c.name) :
    decodeColumns table row' columns r = decodeColumns table row columns r := by
  induction columns generalizing r with
  | nil => rfl
  | cons c rest ih =>
    have others {r : Record} := ih (r := r) fun d listed => alike d (List.mem_cons_of_mem _ listed)
    simp only [decodeColumns, alike c List.mem_cons_self, others]

theorem Rearranged.decode_eq (made : row.Rearranged m row') (apart : row.Apart) :
    row'.decode m = row.decode m := by
  refine decodeColumns_congr fun c mapped => ?_
  rw [byName?_eq, byName?_eq, made.valuesUnder_eq apart mapped]

/-- Columns that can all be read are all read. -/
theorem decodeColumns_total {table : String} {columns : List Column}
    (readable : ∀ c ∈ columns, ∃ raw v, row.byName? c.name = some raw ∧
      c.type.decode c.field raw = .ok v) :
    ∃ record, decodeColumns table row columns r = .ok record := by
  induction columns generalizing r with
  | nil => exact ⟨r, rfl⟩
  | cons c rest ih =>
    obtain ⟨raw, v, found, fits⟩ := readable c List.mem_cons_self
    simp only [decodeColumns, found, fits]
    exact ih fun d listed => readable d (List.mem_cons_of_mem _ listed)

theorem reads_of_decode (decoded : row.decode ⟨t⟩ = .ok record) : Reads t row record where
  read f declared := by
    obtain ⟨raw, v, found, fits, stored⟩ := (decodeColumns_ok t.fields_apart decoded).1
      (t.columnOf f) (List.mem_map_of_mem declared)
    rw [byName?_eq] at found
    obtain ⟨column, listed, own⟩ := mem_valuesUnder.1 (List.mem_of_mem_head? found)
    refine ⟨column, raw, v, listed, fun g declared' => ⟨fun same => ?_, fun same => same ▸ own⟩,
      fits, stored⟩
    have shared : g.column.toLower = f.column.toLower := same.symm.trans own
    have apart : t.fields.Pairwise fun f g => f.column.toLower ≠ g.column.toLower :=
      t.wellFormed.fields.columns
    exact eq_of_apart apart declared' declared shared
  only _ undeclared := get?_decode_undeclared decoded undeclared

/-- Two records that are read from one row are the same. -/
theorem Reads.unique (apart : row.Apart) (one : Reads t row r) (other : Reads t row record) :
    r = record := by
  refine OrderedMap.ext fun name => ?_
  by_cases declared : ∃ f ∈ t.fields, f.name = name
  · obtain ⟨f, declared, rfl⟩ := declared
    obtain ⟨column, raw, v, listed, own, fits, stored⟩ := one.read f declared
    obtain ⟨column', raw', v', listed', own', fits', stored'⟩ := other.read f declared
    have first := apart.valuesUnder_eq listed ((own f declared).2 rfl)
    have second := apart.valuesUnder_eq listed' ((own' f declared).2 rfl)
    obtain rfl : raw = raw' := List.singleton_inj.1 (first.symm.trans second)
    cases fits.symm.trans fits'
    rw [stored, stored']
  · have undeclared : ∀ f ∈ t.fields, f.name ≠ name := fun f listed same =>
      declared ⟨f, listed, same⟩
    rw [one.only name undeclared, other.only name undeclared]

theorem decode_ok_iff (apart : row.Apart) : row.decode ⟨t⟩ = .ok record ↔ Reads t row record := by
  refine ⟨reads_of_decode, fun reads => ?_⟩
  have readable : ∀ c ∈ (TableMapping.mk t).columns, ∃ raw v, row.byName? c.name = some raw ∧
      c.type.decode c.field raw = .ok v := by
    intro c mapped
    obtain ⟨f, declared, rfl⟩ := List.mem_map.1 mapped
    obtain ⟨column, raw, v, listed, own, fits, -⟩ := reads.read f declared
    refine ⟨raw, v, ?_, fits⟩
    rw [byName?_eq]
    exact congrArg List.head? (apart.valuesUnder_eq listed ((own f declared).2 rfl))
  obtain ⟨record', decoded⟩ : ∃ record, row.decode ⟨t⟩ = .ok record := decodeColumns_total readable
  rw [(reads_of_decode decoded).unique apart reads] at decoded
  exact decoded

end Row

/-! ### Rows in turn -/

namespace TableMapping

variable {rows rows' : List Row} {records : List Record} {e : Error}

theorem decodeRows_cons (row : Row) (rest : List Row) :
    m.decodeRows (row :: rest) = match row.decode m with
      | .error e => .error e
      | .ok record => (m.decodeRows rest).map (record :: ·) := rfl

theorem decodeRows_singleton (row : Row) : m.decodeRows [row] = (row.decode m).map ([·]) := by
  rw [decodeRows_cons]
  cases row.decode m <;> rfl

theorem decodeRows_singleton_ok {row : Row} {record : Record} :
    m.decodeRows [row] = .ok [record] ↔ row.decode m = .ok record := by
  rw [decodeRows_singleton]
  cases row.decode m <;> simp [Except.map]

theorem decodeRows_singleton_error {row : Row} :
    m.decodeRows [row] = .error e ↔ row.decode m = .error e := by
  rw [decodeRows_singleton]
  cases row.decode m <;> simp [Except.map]

theorem decodeRows_congr
    (alike : List.Forall₂ (fun row row' => row'.decode m = row.decode m) rows rows') :
    m.decodeRows rows' = m.decodeRows rows := by
  induction alike with
  | nil => rfl
  | cons first _ ih => rw [decodeRows_cons, decodeRows_cons, first, ih]

theorem decodeRows_ok_iff :
    m.decodeRows rows = .ok records ↔
      List.Forall₂ (fun row record => m.decodeRows [row] = .ok [record]) rows records := by
  simp only [decodeRows_singleton_ok]
  induction rows generalizing records with
  | nil => cases records <;> simp [decodeRows]
  | cons row rest ih =>
    rw [decodeRows_cons]
    cases first : row.decode m with
    | error e => cases records <;> simp [first]
    | ok record =>
      cases others : m.decodeRows rest with
      | error e => cases records <;> simp [← ih, others, first, Except.map]
      | ok tail => cases records <;> simp [← ih, others, first, Except.map]

theorem decodeRows_of_error {row : Row} {rest : List Row} (failed : row.decode m = .error e) :
    m.decodeRows (row :: rest) = .error e := by
  rw [decodeRows_cons, failed]

theorem decodeRows_error_of_ok {row : Row} {rest : List Row} {record : Record}
    (read : row.decode m = .ok record) :
    m.decodeRows (row :: rest) = .error e ↔ m.decodeRows rest = .error e := by
  rw [decodeRows_cons, read]
  show (m.decodeRows rest).map (record :: ·) = .error e ↔ _
  cases m.decodeRows rest <;> simp [Except.map]

/-- Rows before the first one that cannot be read do not matter. -/
theorem decodeRows_append_error {before after : List Row} {row : Row}
    (read : ∀ r ∈ before, ∃ record, r.decode m = .ok record) (failed : row.decode m = .error e) :
    m.decodeRows (before ++ row :: after) = .error e := by
  induction before with
  | nil => exact decodeRows_of_error failed
  | cons r before ih =>
    obtain ⟨record, decoded⟩ := read r List.mem_cons_self
    refine (decodeRows_error_of_ok decoded).2 (ih fun r' listed => ?_)
    exact read r' (List.mem_cons_of_mem _ listed)

/-- If rows are not read, there is a first one that is not. -/
theorem first_of_decodeRows_error (failed : m.decodeRows rows = .error e) :
    ∃ before row after, rows = before ++ row :: after ∧
      (∀ r ∈ before, ∃ record, r.decode m = .ok record) ∧ row.decode m = .error e := by
  induction rows with
  | nil => cases failed
  | cons row rest ih =>
    cases first : row.decode m with
    | error e' =>
      cases (decodeRows_of_error first).symm.trans failed
      exact ⟨[], row, rest, rfl, by simp, first⟩
    | ok record =>
      have later := (decodeRows_error_of_ok first).1 failed
      obtain ⟨before, row', after, rfl, read, unread⟩ := ih later
      refine ⟨row :: before, row', after, rfl, fun r listed => ?_, unread⟩
      rcases List.mem_cons.1 listed with rfl | listed
      · exact ⟨record, first⟩
      · exact read r listed

/-- The first row that cannot be read fails the answer. -/
theorem decodeRows_error_iff :
    m.decodeRows rows = .error e ↔ ∃ before row after, rows = before ++ row :: after ∧
      (∀ r ∈ before, ∃ record, m.decodeRows [r] = .ok [record]) ∧
      m.decodeRows [row] = .error e := by
  simp only [decodeRows_singleton_ok, decodeRows_singleton_error]
  refine ⟨first_of_decodeRows_error, ?_⟩
  rintro ⟨before, row, after, rfl, read, failed⟩
  exact decodeRows_append_error read failed

/-- Rows are read by the names of their columns. Where no two columns of a row go by one name, its
reading comes to the same, records or error, in whatever order its columns stand, however their
letters are cased, and whichever columns without a field stand beside them; and what is read is a
record of exactly the declared fields, each decoded from the value of its own column. Several rows
are read if each of them is by itself, and otherwise the first that is not tells why. -/
theorem rows_read_by_name (m : TableMapping) :
    (∀ rows rows', List.Forall₂ (fun row row' => row.Apart ∧ row.Rearranged m row') rows rows' →
      m.decodeRows rows' = m.decodeRows rows) ∧
    (∀ row record, row.Apart →
      (m.decodeRows [row] = .ok [record] ↔ row.Reads m.entityType record)) ∧
    (∀ rows records, m.decodeRows rows = .ok records ↔
      List.Forall₂ (fun row record => m.decodeRows [row] = .ok [record]) rows records) ∧
    ∀ rows e, m.decodeRows rows = .error e ↔ ∃ before row after, rows = before ++ row :: after ∧
      (∀ r ∈ before, ∃ record, m.decodeRows [r] = .ok [record]) ∧
      m.decodeRows [row] = .error e := by
  refine ⟨fun rows rows' made => decodeRows_congr (made.imp fun row row' made => ?_),
    fun row record apart => decodeRows_singleton_ok.trans (Row.decode_ok_iff apart),
    fun rows records => decodeRows_ok_iff, fun rows e => decodeRows_error_iff⟩
  exact made.2.decode_eq made.1

/-! ### A row in two orders -/

/-- A type with a column whose name has letters of both cases. -/
def sensor : EntityType where
  name := "Sensor"
  table := "sensor"
  fields := [⟨"id", "id", .bigInt, false⟩, ⟨"on", "Active", .boolean, true⟩]
  key := ⟨"id", "id", .bigInt, false⟩
  assignment := .caller
  indexes := []
  wellFormed := {
    named := by decide +kernel
    tabled := by decide +kernel
    fields := ⟨by decide +kernel, by decide +kernel, by decide +kernel⟩
    keyDeclared := by decide +kernel
    keyRequired := rfl
    keyType := rfl
    keyInteger := by simp
    indexes := by simp }

/-- Names are compared letter by letter. -/
theorem sameColumn_iff {a b : String} :
    sameColumn a b ↔ a.toList.map Char.toLower = b.toList.map Char.toLower := by
  have lower (s : String) : s.toLower = s.map Char.toLower := rfl
  rw [sameColumn, ← String.toList_inj]
  simp [lower]

def tidyRow : Row := ⟨["id", "Active"], [.int 7, .int 1]⟩

/-- The columns are turned round, one of no field stands between them, and their names are written
in capitals. -/
def untidyRow : Row := ⟨["ACTIVE", "note", "ID"], [.int 1, .text "spare", .int 7]⟩

theorem rows_read_by_name_sensor :
    tidyRow.Apart ∧ tidyRow.Rearranged ⟨sensor⟩ untidyRow ∧
    (TableMapping.mk sensor).decodeRows [untidyRow, tidyRow]
      = (TableMapping.mk sensor).decodeRows [tidyRow, tidyRow] ∧
    ∃ record, (TableMapping.mk sensor).decodeRows [tidyRow] = .ok [record] ∧
      tidyRow.Reads sensor record ∧ record.get? "on" = some (.bool true) := by
  obtain ⟨alike, reads, -, -⟩ := rows_read_by_name ⟨sensor⟩
  have apart : tidyRow.Apart := by
    unfold Row.Apart
    decide +kernel
  have recased : tidyRow.Rearranged ⟨sensor⟩ ⟨["ID", "ACTIVE"], [.int 7, .int 1]⟩ :=
    .recased .unchanged (by simp [tidyRow, sameColumn_iff]) rfl
  have widened : tidyRow.Rearranged ⟨sensor⟩
      ⟨["ID", "ACTIVE", "note"], [.int 7, .int 1, .text "spare"]⟩ :=
    .widened recased [("note", .text "spare")] rfl (by decide +kernel)
  have made : tidyRow.Rearranged ⟨sensor⟩ untidyRow := .permuted widened (by decide +kernel)
  have decoded : (TableMapping.mk sensor).decodeRows [tidyRow]
      = .ok [(OrderedMap.empty.insert "id" (.int 7)).insert "on" (.bool true)] := by
    decide +kernel
  exact ⟨apart, made, alike _ _ (.cons ⟨apart, made⟩ (.cons ⟨apart, .unchanged⟩ .nil)),
    _, decoded, (reads _ _ apart).1 decoded, by decide +kernel⟩

end TableMapping

end IdentityMap
