import IdentityMap.Proofs.Coherence.Persist
/-!
# Records that are read back

A record that an insert or an update has written is what comes back when its row is selected and
decoded (`round_trip`): each declared field as its type decodes it, and nothing else. The columns
that a statement lists, the parameters it takes and the columns that a row is decoded from are put
together in three places; what ties them to each other is that both directions go by the field of a
column, so neither the names nor the place of the key matter.

The table behind the statements goes by position alone: it puts the i-th parameter into the i-th
column. What it makes of a value in doing so is left to it (`keep`). A table may keep every value as
it is; one that keeps bare storage classes gives back what a record decodes to unless the record has
a NaN or a stray leap second.
-/

namespace IdentityMap

open Sql TableMapping

/-! ### Tables that go by position -/

namespace Sql

/-- A row of a table: the value in each column. -/
abbrev Line := String → Value

/-- The i-th of the columns takes the i-th of the parameters, as the table keeps it. -/
def Line.Takes (keep : Value → Value) (columns : List String) (params : List Value) (line : Line) :
    Prop :=
  ∀ p ∈ columns.zip params, line p.1 = keep p.2

instance (keep : Value → Value) (columns : List String) (params : List Value) (line : Line) :
    Decidable (line.Takes keep columns params) :=
  inferInstanceAs (Decidable (∀ p ∈ columns.zip params, line p.1 = keep p.2))

/-- What an answer shows of the row. -/
def Line.shown (columns : List String) (line : Line) : Row := ⟨columns, columns.map line⟩

/-- The rows of a table. No two of them have the same key. -/
structure Lines (key : String) where
  rows : List Line
  apart : rows.Pairwise fun a b => a key ≠ b key

/-- The j-th of several groups of parameters. -/
def group (width : Nat) (params : List Value) (j : Nat) : List Value :=
  (params.drop (j * width)).take width

/-- What a command does that writes rows. Each row that is inserted takes its own group of the
parameters and, where the key is not among the columns, the number that the table has for it. An
update writes the row whose key is the last parameter, and nothing else of it than the columns. -/
def Writes (keep : Value → Value) {key : String} (T : Lines key) (params : List Value)
    (numbers : List Int64) (T' : Lines key) : Command → Prop
  | .insert _ columns count _ => ∃ added : List Line, T'.rows.Perm (T.rows ++ added) ∧
    added.length = count ∧ ∀ (j : Nat) (line : Line), added[j]? = some line →
      line.Takes keep columns (group columns.length params j) ∧
      (key ∉ columns → ∀ n, numbers[j]? = some n → line key = keep (.int n))
  | .update _ columns column => ∃ last, params.getLast? = some last ∧
    List.Forall₂ (fun old new : Line =>
      if old column = keep last then
        new.Takes keep columns params ∧ ∀ other, other ∉ columns → new other = old other
      else new = old) T.rows T'.rows
  | _ => True

/-- What a query brings, in any order. -/
def Shows (keep : Value → Value) {key : String} (T : Lines key) (params : List Value)
    (answer : List Row) : Command → Prop
  | .selectKeys _ columns column _ => ∃ found : List Line, answer = found.map (Line.shown columns) ∧
    found.Perm (T.rows.filter fun line => line column ∈ params.map keep)
  | .selectAll _ columns _ => ∃ found : List Line, answer = found.map (Line.shown columns) ∧
    found.Perm T.rows
  | _ => True

/-- The parameters of the j-th record are the j-th group. -/
theorem group_bound {columns : List Column} {records : List Record} {j : Nat} {r : Record}
    (there : records[j]? = some r) :
    group columns.length (records.flatMap (bound columns)) j = bound columns r := by
  unfold group
  induction records generalizing j with
  | nil => simp at there
  | cons first rest ih =>
    rw [List.flatMap_cons]
    cases j with
    | zero =>
      obtain rfl : first = r := by simpa using there
      simp
    | succ j =>
      have later : rest[j]? = some r := by simpa using there
      rw [Nat.succ_mul, Nat.add_comm, ← List.drop_drop,
        List.drop_left' (length_bound columns first)]
      exact ih later

/-- A column that is written takes the value of its field. -/
theorem Line.Takes.valueOf {keep : Value → Value} {columns : List Column} {r : Record}
    {more : List Value} {line : Line}
    (takes : line.Takes keep (Dialect.columnNames columns) (bound columns r ++ more)) {c : Column}
    (member : c ∈ columns) : line c.name = keep (r.valueOf c.field) := by
  refine takes (c.name, r.valueOf c.field) ?_
  have paired : (Dialect.columnNames columns).zip (bound columns r ++ more)
      = columns.map fun c => (c.name, r.valueOf c.field) := by
    have both : (Dialect.columnNames columns ++ []).zip (bound columns r ++ more)
        = (Dialect.columnNames columns).zip (bound columns r) ++ [].zip more :=
      List.zip_append (by simp [Dialect.columnNames])
    simpa [Dialect.columnNames, bound, Dialect.fieldNames, List.zip_map', Function.comp_def]
      using both
  rw [paired]
  exact List.mem_map_of_mem member

end Sql

/-! ### Written records -/

/-- A statement and its parameters that insert these records. -/
inductive Inserting (d : Dialect) (t : EntityType) : List Record → Statement → List Value → Prop
  | one (r : Record) : Inserting d t [r] (d.insert ⟨t⟩) ((d.insert ⟨t⟩).bind r)
  | many {records : List Record} {s : Statement} {params : List Value}
    (produced : d.insertMany ⟨t⟩ records.length = .ok s)
    (bound : s.bindMany records = .ok params) : Inserting d t records s params

/-- The table after a statement has written the record `r`. Its row is to hold the record `held`,
which is `r` itself, or `r` with the key that was generated for it. -/
inductive Wrote (d : Dialect) (t : EntityType) (keep : Value → Value) (T : Lines t.key.column) :
    (r held : Record) → Lines t.key.column → Prop
  | inserted {records : List Record} {s : Statement} {params : List Value} {numbers : List Int64}
    {T' : Lines t.key.column} {r : Record} (given : t.assignment ≠ .backend)
    (inserting : Inserting d t records s params)
    (effect : Writes keep T params numbers T' s.command) (member : r ∈ records)
    (accepted : t.check r = .ok ()) : Wrote d t keep T r r T'
  /-- The record is accepted as it is or with some key, and its number is one that the key's type
  has. -/
  | numbered {records : List Record} {s : Statement} {params : List Value} {numbers : List Int64}
    {T' : Lines t.key.column} {r : Record} {n : Int64} {j : Nat}
    (generated : t.assignment = .backend) (inserting : Inserting d t records s params)
    (effect : Writes keep T params numbers T' s.command)
    (place : records[j]? = some r) (number : numbers[j]? = some n)
    (accepted : t.check r = .ok () ∨ ∃ key, t.check (t.withKey r key) = .ok ())
    (fits : ∃ v, t.key.type.decode t.key.name (.int n) = .ok v) :
    Wrote d t keep T r (t.withKey r (.int n)) T'
  | updated {s : Statement} {numbers : List Int64} {T' : Lines t.key.column} {r : Record}
    (produced : d.update ⟨t⟩ = some s) (effect : Writes keep T (s.bind r) numbers T' s.command)
    (present : ∃ line ∈ T.rows, line t.key.column = keep (r.valueOf t.key.name))
    (accepted : t.check r = .ok ()) : Wrote d t keep T r r T'

/-! ### Records that come back -/

/-- The record has what each declared field of `held` decodes to, null for a field without a value,
and no other field. -/
structure ReadBack (t : EntityType) (held record : Record) : Prop where
  fields : ∀ f ∈ t.fields, ∃ v, record.get? f.name = some v ∧
    match held.get? f.name with
    | some raw => f.type.decode f.name raw = .ok v
    | none => v = .null
  others : ∀ name, (∀ f ∈ t.fields, f.name ≠ name) → record.get? name = none

/-- The answer has exactly one row with the key of `held`, and it decodes to what comes back. -/
def BringsBack (t : EntityType) (held : Record) (answer : List Row) : Prop :=
  ∃ row record,
    answer.filter (fun row => row.byName? t.key.column = some (held.valueOf t.key.name)) = [row] ∧
    decodeRows ⟨t⟩ [row] = .ok [record] ∧ ReadBack t held record

/-- Selecting by keys and selecting all bring the record back. -/
structure ReadsBack (d : Dialect) (t : EntityType) (keep : Value → Value) (T : Lines t.key.column)
    (held : Record) : Prop where
  byKeys : ∀ keys, held.valueOf t.key.name ∈ keys →
    ∃ s, d.selectKeys ⟨t⟩ keys.length = .ok s ∧
      ∀ answer, Shows keep T keys answer s.command → BringsBack t held answer
  all : ∀ answer, Shows keep T [] answer (d.selectAll ⟨t⟩).command → BringsBack t held answer

section Reading

variable {d : Dialect} {t : EntityType} {keep : Value → Value} {T : Lines t.key.column}
  {held : Record} {line : Line}

/-- The row holds the record's values, each in the column of its field. -/
def Holds (t : EntityType) (keep : Value → Value) (held : Record) (line : Line) : Prop :=
  ∀ f ∈ t.fields, line f.column = keep (held.valueOf f.name)

/-- What the table keeps of a record is as good as the record: each field decodes to the same, and
the key is the key. -/
structure KeepsRecord (t : EntityType) (keep : Value → Value) (held : Record) : Prop where
  fields : ∀ f ∈ t.fields, ∃ v, f.type.decode f.name (held.valueOf f.name) = .ok v ∧
    f.type.decode f.name (keep (held.valueOf f.name)) = .ok v
  key : keep (held.valueOf t.key.name) = held.valueOf t.key.name

theorem byName?_shown (line : Line) {f : Field} (declared : f ∈ t.fields) :
    (line.shown (Dialect.columnNames (TableMapping.mk t).columns)).byName? f.column
      = some (line f.column) := by
  have own := Row.valueIn_own (g := fun c => line c.name) t.columns_apart
    (List.mem_map_of_mem declared : t.columnOf f ∈ (TableMapping.mk t).columns)
  simpa [Row.byName?, Line.shown, Dialect.columnNames, Function.comp_def, EntityType.columnOf]
    using own

/-- A row that holds a record decodes to what comes back of it. -/
theorem Holds.readBack (holds : Holds t keep held line) (kept : KeepsRecord t keep held) :
    ∃ record, decodeRows ⟨t⟩ [line.shown (Dialect.columnNames (TableMapping.mk t).columns)]
      = .ok [record] ∧ ReadBack t held record := by
  let row := line.shown (Dialect.columnNames (TableMapping.mk t).columns)
  have readable : ∀ fields : List Field, (∀ f ∈ fields, f ∈ t.fields) → ∀ start : Record,
      ∃ record, row.decodeColumns t.table (fields.map t.columnOf) start = .ok record := by
    intro fields
    induction fields with
    | nil => exact fun _ start => ⟨start, rfl⟩
    | cons f rest ih =>
      intro declared start
      have here := declared f List.mem_cons_self
      obtain ⟨v, -, fits⟩ := kept.fields f here
      obtain ⟨record, decoded⟩ :=
        ih (fun g listed => declared g (List.mem_cons_of_mem _ listed)) (start.insert f.name v)
      have found : row.byName? f.column = some (keep (held.valueOf f.name)) :=
        (byName?_shown line here).trans (congrArg some (holds f here))
      refine ⟨record, ?_⟩
      rw [List.map_cons, Row.decodeColumns]
      simp only [EntityType.columnOf, found, fits]
      exact decoded
  obtain ⟨record, decoded⟩ := readable t.fields (fun _ listed => listed) .empty
  have whole : row.decode ⟨t⟩ = .ok record := decoded
  refine ⟨record, by simp [decodeRows, row, whole, Except.map], ?_, ?_⟩
  · intro f declared
    obtain ⟨raw, w, there, fits, found⟩ := (Row.decodeColumns_ok t.fields_apart whole).1
      (t.columnOf f) (List.mem_map_of_mem declared)
    obtain ⟨v, normal, same⟩ := kept.fields f declared
    have shown : row.byName? f.column = some raw := there
    rw [byName?_shown line declared, holds f declared] at shown
    obtain rfl := Option.some.inj shown
    obtain rfl : v = w := Except.ok.inj (same.symm.trans fits)
    refine ⟨v, found, ?_⟩
    cases given : held.get? f.name with
    | none => simpa [Record.valueOf, given, ScalarType.decode_null, eq_comm] using normal
    | some raw => simpa [Record.valueOf, given] using normal
  · intro name undeclared
    exact Row.get?_decode_undeclared whole undeclared

/-- Of rows with keys of their own, an answer that has the record's row brings the record back. -/
theorem bringsBack_of_mem {found : List Line}
    (apart : found.Pairwise fun a b => a t.key.column ≠ b t.key.column) (member : line ∈ found)
    (holds : Holds t keep held line) (kept : KeepsRecord t keep held) :
    BringsBack t held
      (found.map (Line.shown (Dialect.columnNames (TableMapping.mk t).columns))) := by
  obtain ⟨record, decoded, back⟩ := holds.readBack kept
  refine ⟨_, record, ?_, decoded, back⟩
  have own : line t.key.column = held.valueOf t.key.name :=
    (holds t.key t.wellFormed.keyDeclared).trans kept.key
  have keyed (other : Line) :
      ((other.shown (Dialect.columnNames (TableMapping.mk t).columns)).byName? t.key.column
        = some (held.valueOf t.key.name)) ↔ other t.key.column = line t.key.column := by
    rw [byName?_shown other t.wellFormed.keyDeclared, Option.some.injEq, own]
  have alone : found.filter (fun other => other t.key.column = line t.key.column) = [line] :=
    filter_of_apart apart member (by simp) fun other _ same => by simpa using same
  rw [List.filter_map]
  simp only [Function.comp_def, keyed, alone, List.map_cons, List.map_nil]

theorem readsBack_of_mem (d : Dialect) (member : line ∈ T.rows) (holds : Holds t keep held line)
    (kept : KeepsRecord t keep held) : ReadsBack d t keep T held := by
  have differ {a b : Line} (apart : a t.key.column ≠ b t.key.column) :
      b t.key.column ≠ a t.key.column := apart.symm
  constructor
  · intro keys asked
    have counted : keys.length ≠ 0 := Nat.ne_of_gt (List.length_pos_of_mem asked)
    refine ⟨_, if_neg counted, fun answer shows => ?_⟩
    obtain ⟨found, rfl, same⟩ := shows
    have wanted : line t.key.column ∈ keys.map keep := by
      rw [holds t.key t.wellFormed.keyDeclared]
      exact List.mem_map_of_mem asked
    exact bringsBack_of_mem (same.symm.pairwise (T.apart.filter _) differ)
      (same.mem_iff.2 (List.mem_filter.2 ⟨member, decide_eq_true wanted⟩)) holds kept
  · intro answer shows
    obtain ⟨found, rfl, same⟩ := shows
    exact bringsBack_of_mem (same.symm.pairwise T.apart differ) (same.mem_iff.2 member) holds kept

end Reading

/-! ### What is written -/

section Writing

variable {d : Dialect} {t : EntityType} {keep : Value → Value} {T T' : Lines t.key.column}
  {r held : Record}

theorem Inserting.eq {records : List Record} {s : Statement} {params : List Value}
    (inserting : Inserting d t records s params) :
    (∃ generated, s.command = .insert t.table
      (Dialect.columnNames (TableMapping.mk t).insertColumns) records.length generated) ∧
      params = records.flatMap (bound (TableMapping.mk t).insertColumns) := by
  cases inserting with
  | one r =>
    refine ⟨⟨_, rfl⟩, ?_⟩
    simp [Statement.bind, Dialect.insert, Dialect.statement, bound]
  | many produced fitting =>
    obtain ⟨command, given⟩ := insertMany_eq produced fitting
    exact ⟨⟨_, command⟩, given⟩

/-- The row that is inserted for a record: the values of the record in the columns that are listed,
and a number in the key column if that is not one of them. -/
theorem Inserting.row {records : List Record} {s : Statement} {params : List Value}
    {numbers : List Int64} (inserting : Inserting d t records s params)
    (effect : Writes keep T params numbers T' s.command) {j : Nat} (place : records[j]? = some r) :
    ∃ line ∈ T'.rows,
      (∀ c ∈ (TableMapping.mk t).insertColumns, line c.name = keep (r.valueOf c.field)) ∧
      (t.key.column ∉ Dialect.columnNames (TableMapping.mk t).insertColumns →
        ∀ n, numbers[j]? = some n → line t.key.column = keep (.int n)) := by
  obtain ⟨⟨generated, command⟩, rfl⟩ := inserting.eq
  rw [command] at effect
  obtain ⟨added, rows, counted, each⟩ := effect
  obtain ⟨bounded, -⟩ := List.getElem?_eq_some_iff.1 place
  have there : added[j]? = some added[j] := List.getElem?_eq_getElem (counted ▸ bounded)
  obtain ⟨takes, numbered⟩ := each j _ there
  have width : (Dialect.columnNames (TableMapping.mk t).insertColumns).length
      = (TableMapping.mk t).insertColumns.length := by simp [Dialect.columnNames]
  rw [width, group_bound place, ← List.append_nil (bound _ r)] at takes
  exact ⟨_, rows.mem_iff.2 (List.mem_append_right _ (List.getElem_mem _)),
    fun c member => takes.valueOf member, numbered⟩

/-- The row of a written record holds it. -/
theorem Wrote.holds (wrote : Wrote d t keep T r held T') :
    ∃ line ∈ T'.rows, Holds t keep held line := by
  cases wrote with
  | inserted given inserting effect member accepted =>
    obtain ⟨j, place⟩ := List.getElem?_of_mem member
    obtain ⟨line, present, written, -⟩ := inserting.row effect place
    refine ⟨line, present, fun f declared => written (t.columnOf f) ?_⟩
    exact List.mem_filter.2 ⟨List.mem_map_of_mem declared, by simp [EntityType.columnOf, given]⟩
  | @numbered _ _ _ _ _ _ n _ assigned inserting effect place number accepted fits =>
    obtain ⟨line, present, written, numbered⟩ := inserting.row effect place
    refine ⟨line, present, fun f declared => ?_⟩
    by_cases own : f.name = t.key.name
    · obtain rfl := EntityType.field_eq declared t.wellFormed.keyDeclared own
      rw [valueOf_withKey_self]
      refine numbered (fun listed => ?_) n number
      obtain ⟨c, member, named⟩ := List.mem_map.1 listed
      obtain ⟨column, given⟩ := List.mem_filter.1 member
      obtain ⟨g, other, rfl⟩ := List.mem_map.1 column
      obtain rfl := EntityType.field_eq_of_column other declared named
      simp [EntityType.columnOf, assigned] at given
    · rw [valueOf_withKey_of_ne _ own]
      refine written (t.columnOf f) (List.mem_filter.2 ⟨List.mem_map_of_mem declared, ?_⟩)
      simp [EntityType.columnOf, own]
  | updated produced effect present accepted =>
    obtain ⟨command, params⟩ := update_eq produced r
    rw [command, params] at effect
    obtain ⟨last, ends, effect⟩ := effect
    obtain rfl : r.valueOf t.key.name = last := by simpa using ends
    obtain ⟨old, there, carries⟩ := present
    obtain ⟨counted, each⟩ := List.forall₂_iff_get.1 effect
    obtain ⟨⟨j, bounded⟩, rfl⟩ := List.mem_iff_get.1 there
    have changed := each j bounded (counted ▸ bounded)
    rw [if_pos carries] at changed
    obtain ⟨takes, kept⟩ := changed
    refine ⟨T'.rows.get ⟨j, counted ▸ bounded⟩, List.get_mem .., fun f declared => ?_⟩
    by_cases own : f.name = t.key.name
    · obtain rfl := EntityType.field_eq declared t.wellFormed.keyDeclared own
      exact (kept _ (key_not_mem_valueColumns t)).trans carries
    · refine takes.valueOf (c := t.columnOf f)
        (List.mem_filter.2 ⟨List.mem_map_of_mem declared, ?_⟩)
      simp [EntityType.columnOf, own]

theorem Wrote.decodes (wrote : Wrote d t keep T r held T') : t.Decodes held := by
  cases wrote with
  | inserted given inserting effect member accepted => exact fun _ => decode_of_check accepted
  | numbered assigned inserting effect place number accepted fits =>
    rcases accepted with complete | ⟨key, filled⟩
    · exact EntityType.Decodes.withKey (fun _ => decode_of_check complete) (fun _ _ => rfl) fits
    · exact EntityType.Decodes.withKey (fun _ => decode_of_check filled)
        (fun _ => valueOf_withKey_of_ne _) fits
  | updated produced effect present accepted => exact fun _ => decode_of_check accepted

theorem Wrote.keeps (kept : r.isKept = true) (wrote : Wrote d t keep T r held T') :
    t.Keeps held := by
  have own := t.keeps kept
  cases wrote with
  | numbered assigned inserting effect place number accepted fits => exact own.withKey (.int _)
  | _ => exact own

/-- A table that keeps values as they are keeps records. -/
theorem EntityType.Decodes.keepsRecord (decodes : t.Decodes held) : KeepsRecord t id held :=
  ⟨fun f declared => (decodes f declared).imp fun _ fits => ⟨fits, fits⟩, rfl⟩

/-- So does one that keeps storage classes, of what storage keeps. -/
theorem EntityType.Decodes.keepsRecord_stored (decodes : t.Decodes held)
    (known : ∀ f ∈ t.fields, ∀ name, f.type ≠ .other name) (kept : t.Keeps held) :
    KeepsRecord t (fun v => v.toStored.toValue) held where
  fields f declared := by
    obtain ⟨v, fits⟩ := decodes f declared
    exact ⟨v, fits, ScalarType.decode_stored (known f declared) (kept f declared) fits⟩
  key := by
    obtain ⟨v, fits⟩ := decodes t.key t.wellFormed.keyDeclared
    exact ScalarType.toValue_toStored_key t.wellFormed.keyType fits

/-- A record goes with every joint insert of as many rows. -/
theorem bindMany_ok {records : List Record} {s : Statement}
    (produced : d.insertMany ⟨t⟩ records.length = .ok s) :
    ∃ params, s.bindMany records = .ok params := by
  obtain rfl := Dialect.eq_of_insertMany_eq_ok produced
  exact ⟨_, if_pos rfl⟩

end Writing

/-- Whatever the dialect, the names of the columns, the place of the key and who assigns it: a
record that an insert or an update has written comes back from every answer about its key, with
each field decoded from the value that was bound for it. A table that keeps the values needs nothing
more for that; for one that keeps storage classes, the types have forms of their own and the record
has no NaN and no stray leap second. -/
theorem round_trip (d : Dialect) (t : EntityType) :
    (∀ records s, d.insertMany ⟨t⟩ records.length = .ok s →
      ∃ params, s.bindMany records = .ok params) ∧
    (∀ T r held T', Wrote d t id T r held T' → ReadsBack d t id T' held) ∧
    ∀ T r held T', (∀ f ∈ t.fields, ∀ name, f.type ≠ .other name) → r.isKept = true →
      Wrote d t (fun v => v.toStored.toValue) T r held T' →
      ReadsBack d t (fun v => v.toStored.toValue) T' held := by
  refine ⟨fun records s => bindMany_ok, ?_, ?_⟩
  · intro T r held T' wrote
    obtain ⟨line, member, holds⟩ := wrote.holds
    exact readsBack_of_mem d member holds wrote.decodes.keepsRecord
  · intro T r held T' known kept wrote
    obtain ⟨line, member, holds⟩ := wrote.holds
    exact readsBack_of_mem d member holds
      (wrote.decodes.keepsRecord_stored known (wrote.keeps kept))

/-! ### A joint insert with generated keys -/

/-- The key stands between two other fields, in a column of another name. -/
def reading : EntityType where
  name := "Reading"
  table := "readings"
  fields := [⟨"at", "Id", .date, true⟩, ⟨"id", "a?t", .integer, false⟩,
    ⟨"v", "level", .double, false⟩]
  key := ⟨"id", "a?t", .integer, false⟩
  assignment := .backend
  indexes := []
  wellFormed := {
    named := by decide +kernel
    tabled := by decide +kernel
    fields := ⟨by decide +kernel, by decide +kernel, by decide +kernel⟩
    keyDeclared := by decide +kernel
    keyRequired := rfl
    keyType := rfl
    keyInteger := fun _ => rfl
    indexes := by simp }

/-- Two readings are inserted in one statement and numbered 7 and 8; the first one comes back from
both rows. -/
theorem round_trip_reading :
    let dated : Record := OrderedMap.ofList [("v", .int 5), ("at", .text "2024-02-29")]
    ∃ T' answer, Wrote .postgres reading id ⟨[], .nil⟩ dated (reading.withKey dated (.int 7)) T' ∧
      Shows id T' [] answer (Dialect.postgres.selectAll ⟨reading⟩).command ∧ answer.length = 2 ∧
      BringsBack reading (reading.withKey dated (.int 7)) answer := by
  intro dated
  let undated : Record := OrderedMap.ofList [("v", .int 6)]
  let first : Line := fun column =>
    if column = "Id" then .text "2024-02-29" else if column = "level" then .int 5 else .int 7
  let second : Line := fun column =>
    if column = "Id" then .null else if column = "level" then .int 6 else .int 8
  let T' : Lines reading.key.column := ⟨[first, second], by simp [first, second, reading]⟩
  have inserting : Inserting .postgres reading [dated, undated] _ _ := .many rfl rfl
  have wrote : Wrote .postgres reading id ⟨[], .nil⟩ dated (reading.withKey dated (.int 7)) T' := by
    have place : [dated, undated][0]? = some dated := rfl
    have number : [(7 : Int64), 8][0]? = some 7 := rfl
    refine .numbered rfl inserting ?_ place number (.inr ⟨.int 0, by decide +kernel⟩) ⟨_, rfl⟩
    refine ⟨[first, second], .refl _, rfl, fun j line there => ?_⟩
    match j with
    | 0 =>
      obtain rfl : first = line := by simpa using there
      exact ⟨by decide +kernel, fun _ n number => by cases number; rfl⟩
    | 1 =>
      obtain rfl : second = line := by simpa using there
      exact ⟨by decide +kernel, fun _ n number => by cases number; rfl⟩
    | j + 2 => simp at there
  have shows : Shows id T' [] (T'.rows.map (Line.shown _))
      (Dialect.postgres.selectAll ⟨reading⟩).command := ⟨_, rfl, .refl _⟩
  have back := (round_trip .postgres reading).2.1 _ dated _ _ wrote
  exact ⟨_, _, wrote, shows, rfl, back.all _ shows⟩

end IdentityMap
