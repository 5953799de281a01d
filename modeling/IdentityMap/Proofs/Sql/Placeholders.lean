import IdentityMap.Proofs.Sql.Spelling
/-!
# Placeholders in the text of statements

`Dialect.placeholdersIn` reads a text as a row store does: it passes over quoted names and takes
down every placeholder outside of them. A statement shows the placeholders of its parameters and no
others, numbered from one on (`Dialect.placeholders_of_statements`), whatever characters its table
and its columns are named with.

That a text is read part by part rests on what stands between names and placeholders: words, which
can be mistaken for neither (`Legible`). The reader is a scan that finds the placeholders where they
stand and nothing in names (`follows_placeholderScan`).
-/

namespace IdentityMap.Sql

/-! ### Reading a text -/

/-- The placeholder that a text begins with. A numbered one takes all digits behind its mark. -/
def Placeholder.begins? : Placeholder → List Char → Option String
  | question, text => if text.head? = some '?' then some "?" else none
  | numbered mark, text =>
    if mark.toList.isPrefixOf text then
      match (text.drop mark.toList.length).takeWhile Char.isDigit with
      | [] => none
      | digits => some (mark ++ String.ofList digits)
    else none

/-- Where a reader of a text stands. -/
inductive Standing
  | outside
  | inside
  /-- Behind a closing character, which ends the name unless another one follows. -/
  | closing
deriving DecidableEq

/-- The placeholders outside of quoted names, from left to right. -/
def placeholdersFrom (q : Quoting) (p : Placeholder) : Standing → List Char → List String
  | _, [] => []
  | .inside, c :: rest =>
    placeholdersFrom q p (if c = q.closing then .closing else .inside) rest
  | standing, c :: rest =>
    if standing = .closing ∧ c = q.closing then placeholdersFrom q p .inside rest
    else if c = q.opening then placeholdersFrom q p .inside rest
    else (p.begins? (c :: rest)).toList ++ placeholdersFrom q p .outside rest

def Dialect.placeholdersIn (d : Dialect) (sql : String) : List String :=
  placeholdersFrom d.quoting d.placeholder .outside sql.toList

/-- The statement has this many parameters, and its text shows the placeholders of exactly these. -/
def Statement.Carries (d : Dialect) (s : Statement) (count : Nat) : Prop :=
  s.paramCount = count ∧
    d.placeholdersIn s.sql = (List.range' 1 count).map d.placeholder.text

/-! ### What a placeholder begins with -/

/-- The characters that a placeholder begins with, before its number. -/
def Placeholder.mark : Placeholder → List Char
  | question => ['?']
  | numbered mark => mark.toList

/-- Names, placeholders and words begin differently. -/
structure Legible (q : Quoting) (p : Placeholder) : Prop where
  opening : isWordChar q.opening = false ∧ q.opening.isDigit = false ∧ q.opening ∉ p.mark
  closing : isWordChar q.closing = false
  marked : p.mark ≠ []
  mark : ∀ c ∈ p.mark.head?, isWordChar c = false ∧ c.isDigit = false ∧ c ∉ p.mark.tail

/-- The quoting and the placeholders of the built-in dialects. -/
theorem legible_builtIn (kind : DialectKind) :
    Legible kind.dialect.quoting kind.dialect.placeholder := by
  have mark : ∀ c ∈ kind.dialect.placeholder.mark.head?,
      isWordChar c = false ∧ c.isDigit = false ∧ c ∉ kind.dialect.placeholder.mark.tail := by
    intro c first
    cases kind <;> cases first <;> decide
  refine ⟨?_, ?_, ?_, mark⟩ <;> cases kind <;> decide

theorem legible_ansi : Legible ⟨'"', '"'⟩ .question := by
  refine ⟨by decide, by decide, by decide, ?_⟩
  rintro _ ⟨⟩
  decide

/-- A name or a placeholder is complete before this text. -/
def Parted (q : Quoting) (rest : List Char) : Prop :=
  ∀ c ∈ rest.head?, c ≠ q.closing ∧ c.isDigit = false

section Reading

variable {q : Quoting} {p : Placeholder} {c : Char} {rest : List Char}

theorem parted_nil : Parted q [] := by
  simp [Parted]

theorem isDigit_of_isWordChar (word : isWordChar c = true) : c.isDigit = false := by
  have digit : c.isDigit = true ↔ 48 ≤ c.toNat ∧ c.toNat ≤ 57 := Char.isDigit_iff_toNat
  have letter : c.isUpper = true ↔ 65 ≤ c.toNat ∧ c.toNat ≤ 90 := by
    show decide ('A'.val ≤ c.val ∧ c.val ≤ 'Z'.val) = true ↔ _
    simp [UInt32.le_iff_toNat_le, ← Char.toNat_val]
  simp only [isWordChar, Bool.or_eq_true, List.mem_cons, List.not_mem_nil, or_false,
    decide_eq_true_eq] at word
  rcases word with upper | rfl | rfl | rfl | rfl | rfl
  · have bounds := letter.1 upper
    simp only [Bool.eq_false_iff, ne_eq, digit]
    omega
  all_goals decide

theorem Legible.parted (legible : Legible q p) (word : isWordChar c = true) :
    Parted q (c :: rest) := by
  intro head same
  obtain rfl : c = head := by simpa using same
  refine ⟨?_, isDigit_of_isWordChar word⟩
  rintro rfl
  simp [legible.closing] at word

theorem Placeholder.begins?_eq_none (marked : p.mark ≠ []) (other : c ∉ p.mark.head?) :
    p.begins? (c :: rest) = none := by
  cases p with
  | question =>
    have apart : c ≠ '?' := by simpa [mark, eq_comm] using other
    simp [begins?, apart]
  | numbered text =>
    obtain ⟨first, tail, spelled⟩ := List.exists_cons_of_ne_nil marked
    simp only [mark] at spelled other
    have apart : first ≠ c := by simpa [spelled] using other
    simp [begins?, spelled, apart]

theorem placeholdersFrom_outside (unopened : c ≠ q.opening) :
    placeholdersFrom q p .outside (c :: rest)
      = (p.begins? (c :: rest)).toList ++ placeholdersFrom q p .outside rest := by
  simp [placeholdersFrom, unopened]

/-- A character that begins neither a name nor a placeholder is passed over. -/
theorem placeholdersFrom_skip (marked : p.mark ≠ []) (unopened : c ≠ q.opening)
    (other : c ∉ p.mark.head?) :
    placeholdersFrom q p .outside (c :: rest) = placeholdersFrom q p .outside rest := by
  simp [placeholdersFrom_outside unopened, Placeholder.begins?_eq_none marked other]

theorem placeholdersFrom_skips (marked : p.mark ≠ []) {text : List Char}
    (skipped : ∀ c ∈ text, c ≠ q.opening ∧ c ∉ p.mark.head?) :
    placeholdersFrom q p .outside (text ++ rest) = placeholdersFrom q p .outside rest := by
  induction text with
  | nil => rfl
  | cons c text ih =>
    obtain ⟨unopened, other⟩ := skipped c (by simp)
    rw [List.cons_append, placeholdersFrom_skip marked unopened other]
    exact ih fun c mem => skipped c (by simp [mem])

/-- Behind a closing character that is not doubled, the name has ended. -/
theorem placeholdersFrom_closing (parted : Parted q rest) :
    placeholdersFrom q p .closing rest = placeholdersFrom q p .outside rest := by
  cases rest with
  | nil => rfl
  | cons c rest =>
    have undoubled : c ≠ q.closing := (parted c (by simp)).1
    simp [placeholdersFrom, undoubled]

/-- Whatever stands inside a name is passed over. -/
theorem placeholdersFrom_inside (identifier : List Char) (parted : Parted q rest) :
    placeholdersFrom q p .inside
        (identifier.flatMap (fun c => if c = q.closing then [c, c] else [c])
          ++ q.closing :: rest)
      = placeholdersFrom q p .outside rest := by
  induction identifier with
  | nil => simpa [placeholdersFrom] using placeholdersFrom_closing parted
  | cons c identifier ih =>
    by_cases closes : c = q.closing
    · simpa [closes, placeholdersFrom] using ih
    · simpa [closes, placeholdersFrom] using ih

theorem takeWhile_digits {digits : List Char} (all : ∀ c ∈ digits, c.isDigit = true)
    (parted : Parted q rest) : (digits ++ rest).takeWhile Char.isDigit = digits := by
  rw [List.takeWhile_append_of_pos all]
  cases rest with
  | nil => simp
  | cons c rest => simp [(parted c (by simp)).2]

/-- A numbered placeholder is begun by its whole number. -/
theorem begins?_numbered (mark : String) (position : Nat) (parted : Parted q rest) :
    (Placeholder.numbered mark).begins?
        (((Placeholder.numbered mark).text position).toList ++ rest)
      = some ((Placeholder.numbered mark).text position) := by
  have digits : ∀ c ∈ Nat.toDigits 10 position, c.isDigit = true := fun c mem =>
    Nat.isDigit_of_mem_toDigits (by decide) (by decide) mem
  have spelled : ((Placeholder.numbered mark).text position).toList
      = mark.toList ++ Nat.toDigits 10 position := by
    simp [Placeholder.text]
  have number : ((mark.toList ++ Nat.toDigits 10 position ++ rest).drop
      mark.toList.length).takeWhile Char.isDigit = Nat.toDigits 10 position := by
    rw [List.append_assoc, List.drop_left, takeWhile_digits digits parted]
  have nonempty : Nat.toDigits 10 position ≠ [] := Nat.toDigits_ne_nil
  obtain ⟨digit, more, some⟩ := List.exists_cons_of_ne_nil nonempty
  have begins :
      mark.toList.isPrefixOf (mark.toList ++ Nat.toDigits 10 position ++ rest) = true := by
    simp
  simp only [spelled, Placeholder.begins?, number, begins, if_true]
  rw [some]
  have written : String.ofList (Nat.toDigits 10 position) = toString position :=
    String.ext (by simp)
  simp [Placeholder.text, ← some, written]

theorem placeholdersFrom_placeholder (legible : Legible q p) (position : Nat)
    (parted : Parted q rest) :
    placeholdersFrom q p .outside ((p.text position).toList ++ rest)
      = p.text position :: placeholdersFrom q p .outside rest := by
  cases p with
  | question =>
    have unopened : '?' ≠ q.opening := by
      simpa [Placeholder.mark, eq_comm] using legible.opening.2.2
    simp [Placeholder.text, placeholdersFrom, unopened, Placeholder.begins?]
  | numbered mark =>
    have begun := begins?_numbered mark position parted
    obtain ⟨first, tail, spelled⟩ := List.exists_cons_of_ne_nil legible.marked
    obtain ⟨-, undigit, once⟩ := legible.mark first (by simp [spelled])
    obtain ⟨-, undigitOpening, unmarked⟩ := legible.opening
    simp only [spelled, List.tail_cons, List.mem_cons, not_or] at once unmarked
    have text : ((Placeholder.numbered mark).text position).toList
        = first :: (tail ++ Nat.toDigits 10 position) := by
      simp only [Placeholder.mark] at spelled
      simp [Placeholder.text, spelled]
    rw [text, List.cons_append] at begun ⊢
    rw [placeholdersFrom_outside (Ne.symm unmarked.1), begun,
      placeholdersFrom_skips legible.marked]
    · simp
    -- neither the rest of the mark nor a digit begins a name or another placeholder
    intro c mem
    simp only [spelled, List.head?_cons, Option.mem_some_iff]
    rcases List.mem_append.1 mem with inMark | inNumber
    · exact ⟨fun same => unmarked.2 (same ▸ inMark), fun same => once (same ▸ inMark)⟩
    · have digit : c.isDigit = true :=
        Nat.isDigit_of_mem_toDigits (by decide) (by decide) inNumber
      constructor
      · rintro rfl
        simp [undigitOpening] at digit
      · rintro rfl
        simp [undigit] at digit

end Reading

/-! ### Placeholders of statements -/

/-- The scan that takes down placeholders. -/
def Dialect.placeholderScan (d : Dialect) : Scan String where
  Found := List String
  read := placeholdersFrom d.quoting d.placeholder .outside
  before shown found := shown ++ found
  Parted := Parted d.quoting

section Showing

variable {d : Dialect} {text : String} {shown : List String}

theorem placeholdersIn_of_shows (shows : d.placeholderScan.ShowsParted text shown) :
    d.placeholdersIn text = shown := by
  simpa [Dialect.placeholdersIn, Dialect.placeholderScan, placeholdersFrom]
    using shows [] parted_nil

theorem showsParted_quote (identifier : String) :
    d.placeholderScan.ShowsParted (d.quote identifier) [] := by
  intro rest parted
  have inside := placeholdersFrom_inside (p := d.placeholder) identifier.toList parted
  simpa [Dialect.placeholderScan, Dialect.quote, Quoting.quote, placeholdersFrom] using inside

variable (legible : Legible d.quoting d.placeholder)

include legible

theorem passes_words (word : String) (spelled : isWords word = true) :
    d.placeholderScan.Passes word := by
  obtain ⟨nonempty, letters⟩ := Bool.and_eq_true_iff.1 spelled
  have letter : ∀ c ∈ word.toList, isWordChar c = true := List.all_eq_true.1 letters
  refine ⟨fun rest => placeholdersFrom_skips legible.marked fun c mem => ?_, fun rest => ?_⟩
  · constructor
    · rintro rfl
      simpa [legible.opening.1] using letter d.quoting.opening mem
    · intro begins
      simpa [(legible.mark c begins).1] using letter c mem
  · have nonempty : word.toList ≠ [] := by simpa using nonempty
    obtain ⟨c, tail, begins⟩ := List.exists_cons_of_ne_nil nonempty
    rw [begins]
    exact legible.parted (letter c (by simp [begins]))

/-- The scan finds each placeholder where it stands, and nothing in names. -/
theorem follows_placeholderScan :
    d.placeholderScan.Follows d (fun _ => []) fun i => [d.placeholder.text i] where
  nothing _ := List.nil_append _
  together := List.append_assoc
  words := passes_words legible
  name := showsParted_quote
  mark position _ parted := placeholdersFrom_placeholder legible position parted

theorem showsParted_insert (table : String) (columns : List String) (rows : Nat)
    (generated : Option String) :
    d.placeholderScan.ShowsParted (d.render (.insert table columns rows generated))
      ((List.range' 1 (rows * columns.length)).map d.placeholder.text) := by
  have shows := (follows_placeholderScan legible).insert table columns rows generated
  simpa [← List.map_eq_flatMap, List.flatMap_eq_nil_iff.2] using shows

theorem showsParted_update (table : String) (columns : List String) (key : String) :
    d.placeholderScan.ShowsParted (d.render (.update table columns key))
      ((List.range' 1 (columns.length + 1)).map d.placeholder.text) := by
  have shows := (follows_placeholderScan legible).update table columns key
  have numbered : columns.zipIdx.map (fun entry => d.placeholder.text (entry.2 + 1))
      = (List.range' 1 columns.length).map d.placeholder.text := by
    apply List.ext_getElem
    · simp
    · simp [Nat.add_comm]
  rw [List.range'_1_concat, List.map_append, Nat.add_comm 1, ← numbered, List.map_eq_flatMap]
  exact shows

theorem showsParted_selectKeys (table : String) (columns : List String) (key : String)
    (count : Nat) :
    d.placeholderScan.ShowsParted (d.render (.selectKeys table columns key count))
      ((List.range' 1 count).map d.placeholder.text) := by
  have shows := (follows_placeholderScan legible).selectKeys table columns key count
  simpa [← List.map_eq_flatMap, List.flatMap_eq_nil_iff.2] using shows

theorem showsParted_deleteKeys (table key : String) (count : Nat) :
    d.placeholderScan.ShowsParted (d.render (.deleteKeys table key count))
      ((List.range' 1 count).map d.placeholder.text) := by
  have shows := (follows_placeholderScan legible).deleteKeys table key count
  simpa [← List.map_eq_flatMap] using shows

end Showing

/-- A statement carries its parameters if its text shows as many placeholders as it has fields. -/
theorem carries_of_shows {d : Dialect} {s : Statement} {count : Nat}
    (shows : d.placeholderScan.ShowsParted s.sql
      ((List.range' 1 count).map d.placeholder.text))
    (fields : s.fields.length = count) : s.Carries d count :=
  ⟨fields, placeholdersIn_of_shows shows⟩

/-- The statements of a table carry exactly their parameters: the text of each shows, outside of
quoted names, the placeholders from the first to the last parameter, in order and nothing else. This
holds in every built-in dialect, and in every dialect with double quotes and question marks. -/
theorem Dialect.placeholders_of_statements (d : Dialect) (m : TableMapping)
    (spelling : (∃ kind : DialectKind, d = kind.dialect)
      ∨ (d.quoting = ⟨'"', '"'⟩ ∧ d.placeholder = .question)) :
    (d.insert m).Carries d m.insertColumns.length ∧
    (∀ rows s, d.insertMany m rows = .ok s → s.Carries d (rows * m.insertColumns.length)) ∧
    (∀ s, d.update m = some s → s.Carries d (m.valueColumns.length + 1)) ∧
    (∀ count s, d.selectKeys m count = .ok s → s.Carries d count) ∧
    (∀ count s, d.deleteKeys m count = .ok s → s.Carries d count) := by
  have legible : Legible d.quoting d.placeholder := by
    rcases spelling with ⟨kind, rfl⟩ | ⟨quoting, placeholder⟩
    · exact legible_builtIn kind
    · rw [quoting, placeholder]
      exact legible_ansi
  refine ⟨?insert, ?insertMany, ?update, ?selectKeys, ?deleteKeys⟩
  case insert =>
    have shows := showsParted_insert legible m.table (columnNames m.insertColumns) 1
      (generatedKeyOf m)
    apply carries_of_shows
    · simpa [Dialect.insert, statement, columnNames] using shows
    · simp [Dialect.insert, statement, fieldNames]
  case insertMany =>
    intro rows s produced
    obtain rfl := eq_of_insertMany_eq_ok produced
    have shows := showsParted_insert legible m.table (columnNames m.insertColumns) rows none
    apply carries_of_shows
    · simpa [statement, columnNames] using shows
    · simp [statement, fieldNames]
  case update =>
    intro s produced
    obtain rfl := eq_of_update_eq_some produced
    have shows := showsParted_update legible m.table (columnNames m.valueColumns) m.keyColumn.name
    apply carries_of_shows
    · simpa [statement, columnNames] using shows
    · simp [statement, fieldNames]
  case selectKeys =>
    intro count s produced
    obtain rfl := eq_of_selectKeys_eq_ok produced
    apply carries_of_shows
    · exact showsParted_selectKeys legible m.table (columnNames m.columns) m.keyColumn.name count
    · simp [statement, keyFields]
  case deleteKeys =>
    intro count s produced
    obtain rfl := eq_of_deleteKeys_eq_ok produced
    apply carries_of_shows
    · exact showsParted_deleteKeys legible m.table m.keyColumn.name count
    · simp [statement, keyFields]

/-! ### A table with names that look like placeholders -/

/-- The names of a table and its columns are taken from the spellings of placeholders and quotes. -/
def riddle : EntityType where
  name := "Riddle"
  table := "who?"
  fields := [⟨"a", "]@p1", .bigInt, false⟩, ⟨"b", "$1?", .string none, true⟩]
  key := ⟨"a", "]@p1", .bigInt, false⟩
  assignment := .caller
  indexes := []
  wellFormed := {
    named := by decide +kernel
    tabled := by decide +kernel
    fields := ⟨by decide +kernel, by decide +kernel, by decide +kernel⟩
    keyDeclared := by decide +kernel
    keyRequired := rfl
    keyType := rfl
    keyInteger := by simp
    indexes := by simp }

theorem placeholders_of_riddle :
    (∃ s, Dialect.sqlServer.insertMany ⟨riddle⟩ 2 = .ok s ∧
      s.sql = "INSERT INTO [who?] ([]]@p1], [$1?]) VALUES (@p1, @p2), (@p3, @p4)" ∧
      s.paramCount = 4 ∧ Dialect.sqlServer.placeholdersIn s.sql = ["@p1", "@p2", "@p3", "@p4"]) ∧
    (∃ s, Dialect.sqlServer.update ⟨riddle⟩ = some s ∧
      s.sql = "UPDATE [who?] SET [$1?] = @p1 WHERE []]@p1] = @p2" ∧
      s.paramCount = 2 ∧ Dialect.sqlServer.placeholdersIn s.sql = ["@p1", "@p2"]) := by
  obtain ⟨-, many, update, -⟩ :=
    Dialect.placeholders_of_statements .sqlServer ⟨riddle⟩ (.inl ⟨.sqlServer, rfl⟩)
  exact ⟨⟨_, rfl, by decide +kernel, many 2 _ rfl⟩, ⟨_, rfl, by decide +kernel, update _ rfl⟩⟩

end IdentityMap.Sql
