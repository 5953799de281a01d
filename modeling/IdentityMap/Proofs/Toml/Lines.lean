import IdentityMap.Toml.Codec
/-!
# Documents of plain lines

A document may be nothing but lines of the form `name = value`. If the names are bare and different
and each value is one that the format reads as a node (`Spelled`), then the document holds exactly
these nodes under these names, in the order of the lines (`read?_lines`). Plain words in double
quotes, the two truth values and the decimal numbers up to the format's limit are such values.

A codec is lawful if it prints such scalars and reads them, from what it has printed and from a
document of lines (`Codec.Lawful`). The codec that prints line by line is lawful
(`lineCodec_lawful`).
-/

namespace IdentityMap.Toml

variable {c : Char} {chars rest : List Char}

/-! ### Words -/

theorem takeWhile_stopped {p : Char → Bool} (inside : ∀ c ∈ chars, p c = true)
    (stops : ∀ c, rest.head? = some c → p c = false) : (chars ++ rest).takeWhile p = chars := by
  rw [List.takeWhile_append_of_pos inside]
  cases rest with
  | nil => simp
  | cons c rest => simp [stops c rfl]

/-- Spaces in front of a word are passed over, and nothing else. -/
theorem skipSpaces_space : skipSpaces (' ' :: rest) = skipSpaces rest := rfl

theorem skipSpaces_cons (shown : c ≠ ' ' ∧ c ≠ '\t') : skipSpaces (c :: rest) = c :: rest := by
  simp [skipSpaces, shown]

theorem isWordChar_of_isDigit (digit : c.isDigit = true) : isWordChar c = true := by
  simp [isWordChar, Char.isAlphanum, digit]

/-! ### Values -/

/-- Behind the sign of equality, the text is read as the node and ends its line. -/
def Spelled (text : String) (node : Node) : Prop :=
  ∀ fuel rest, readValue (fuel + 1) 0 (skipSpaces (' ' :: (text.toList ++ '\n' :: rest)))
    = some (node, '\n' :: rest)

/-- Characters that stand for themselves in double quotes. -/
def isQuotable (c : Char) : Bool := isPlain c && c ≠ '"' && c ≠ '\\'

theorem basicBody_quotable (plain : ∀ c ∈ chars, isQuotable c = true) (rest : List Char) :
    basicBody (chars ++ '"' :: rest) = some (chars, rest) := by
  induction chars with
  | nil => rfl
  | cons c chars ih =>
    have later := ih fun d listed => plain d (List.mem_cons_of_mem _ listed)
    have first : isPlain c = true ∧ c ≠ '"' ∧ c ≠ '\\' := by
      simpa [isQuotable, and_assoc] using plain c List.mem_cons_self
    rw [List.cons_append, basicBody]
    · rw [if_pos first.1, later]
      rfl
    all_goals simp [first]

theorem ne_of_isWordChar {mark : Char} (word : isWordChar c = true)
    (other : isWordChar mark = false) : c ≠ mark := by
  rintro rfl
  cases word.symm.trans other

theorem readValue_quote (fuel depth : Nat) :
    readValue (fuel + 1) depth ('"' :: rest)
      = (readString ('"' :: rest)).map fun (s, rest) => (.text s, rest) := by
  rw [readValue] <;> simp

theorem readValue_word (fuel depth : Nat) (word : isWordChar c = true) :
    readValue (fuel + 1) depth (c :: rest) = readScalar (c :: rest) := by
  have unquoted : ¬ (c = '"' ∨ c = singleQuote) :=
    not_or.2 ⟨ne_of_isWordChar word (by decide), ne_of_isWordChar word (by decide)⟩
  rw [readValue]
  · rw [if_neg unquoted]
  · exact ne_of_isWordChar word (by decide)
  · exact ne_of_isWordChar word (by decide)

theorem spelled_quoted {word : String} (some : word.toList ≠ [])
    (plain : ∀ c ∈ word.toList, isQuotable c = true) :
    Spelled ("\"" ++ word ++ "\"") (.text word) := by
  intro fuel rest
  have read := basicBody_quotable plain ('\n' :: rest)
  obtain ⟨c, chars, spelled⟩ := List.exists_cons_of_ne_nil some
  have first : isQuotable c = true := plain c (spelled ▸ List.mem_cons_self)
  have unquoted : c ≠ '"' := by rintro rfl; cases first
  have string : readString ('"' :: (word.toList ++ '"' :: '\n' :: rest))
      = .some (word, '\n' :: rest) := by
    rw [readString]
    rw [spelled, List.cons_append] at read ⊢
    simp [unquoted, read, singleQuote, ← spelled]
  have text : ("\"" ++ word ++ "\"").toList ++ '\n' :: rest
      = '"' :: (word.toList ++ '"' :: '\n' :: rest) := by simp
  rw [text, skipSpaces_space, skipSpaces_cons (by decide), readValue_quote, string]
  rfl

/-! ### Scalars -/

theorem ungrouped_digits (some : chars ≠ []) (digits : ∀ c ∈ chars, c.isDigit = true) :
    ungrouped Char.isDigit chars = .some chars := by
  induction chars with
  | nil => exact absurd rfl some
  | cons c chars ih =>
    have first := digits c List.mem_cons_self
    cases chars with
    | nil => simp [ungrouped, first]
    | cons d chars =>
      have later := ih (List.cons_ne_nil d chars) fun e listed =>
        digits e (List.mem_cons_of_mem _ listed)
      have second := digits d (List.mem_cons_of_mem _ List.mem_cons_self)
      have counted : d ≠ '_' := by rintro rfl; cases second
      rw [ungrouped]
      · rw [if_pos first, later]
        rfl
      all_goals simp [counted]

/-- Digits alone are no date: it has a dash behind the year. -/
theorem date?_digits (digits : ∀ c ∈ chars, c.isDigit = true) : date? chars = none := by
  have unmarked (n : Nat) : mark? '-' (chars.drop n) = none := by
    cases behind : chars.drop n with
    | nil => rfl
    | cons c rest =>
      have digit := digits c (List.mem_of_mem_drop (behind ▸ List.mem_cons_self))
      have other : '-' ≠ c := by rintro rfl; cases digit
      simp [mark?, other]
  cases year : fixedDigits? 4 chars with
  | none => simp [date?, year]
  | some read =>
    have behind : read.2 = chars.drop 4 := by
      unfold fixedDigits? at year
      dsimp only at year
      split at year
      · cases year
        rfl
      · cases year
    simp [date?, year, behind, unmarked]

theorem isDigit_toDigits (n : Nat) : ∀ c ∈ Nat.toDigits 10 n, c.isDigit = true :=
  fun _ => Nat.isDigit_of_mem_toDigits (by decide) (by decide)

theorem toDigits_ne_nil (n : Nat) : Nat.toDigits 10 n ≠ [] :=
  List.ne_nil_of_length_pos Nat.length_toDigits_pos

theorem digitsValue_eq (digits : ∀ c ∈ chars, c.isDigit = true) (n : Nat) :
    chars.foldl (fun n c => n * 10 + hexDigitValue c) n = Nat.ofDigitChars 10 chars n := by
  induction chars generalizing n with
  | nil => simp
  | cons c chars ih =>
    have value : hexDigitValue c = c.toNat - '0'.toNat := by
      simp [hexDigitValue, digits c List.mem_cons_self]
    rw [List.foldl_cons, ih fun d listed => digits d (List.mem_cons_of_mem _ listed), value,
      Nat.ofDigitChars_cons, Nat.mul_comm]

theorem digitsValue_toDigits (n : Nat) : digitsValue 10 (Nat.toDigits 10 n) = n := by
  rw [digitsValue, digitsValue_eq (isDigit_toDigits n),
    Nat.ofDigitChars_toDigits (by decide) (by decide)]

/-- No needless zero is written in front of a number. -/
theorem eq_zero_of_head?_toDigits {n : Nat} (zero : (Nat.toDigits 10 n).head? = some '0') :
    n = 0 := by
  induction n using Nat.strongRecOn with
  | ind n ih =>
    by_cases small : n < 10
    · have value := Nat.toNat_digitChar_of_lt_ten small
      rw [Nat.toDigits_of_lt_base small] at zero
      rw [Option.some.inj zero] at value
      exact (Nat.add_left_cancel value).symm
    · have large : 10 ≤ n := by omega
      obtain ⟨c, digits, tenth⟩ := List.exists_cons_of_ne_nil (toDigits_ne_nil (n / 10))
      rw [Nat.toDigits_of_base_le (by decide) large, tenth] at zero
      have none := ih (n / 10) (by omega) (by rw [tenth]; exact zero)
      omega

theorem decimalDigits?_toDigits (n : Nat) :
    decimalDigits? (Nat.toDigits 10 n) = some (Nat.toDigits 10 n) := by
  rw [decimalDigits?, ungrouped_digits (toDigits_ne_nil n) (isDigit_toDigits n), Option.bind_some]
  split
  · rename_i needless
    have zero := eq_zero_of_head?_toDigits (n := n) (by rw [needless]; rfl)
    rw [zero] at needless
    cases needless
  · rfl

theorem integer?_toDigits {n : Nat} (bounded : n ≤ integerLimit) :
    integer? (Nat.toDigits 10 n) = some (.integer n) := by
  have without {mark : Char} (other : mark.isDigit = false) : mark ∉ Nat.toDigits 10 n :=
    fun listed => by cases (isDigit_toDigits n mark listed).symm.trans other
  have unsigned : splitSign (Nat.toDigits 10 n) = (false, Nat.toDigits 10 n) := by
    unfold splitSign
    split
    · rename_i minus
      exact absurd (minus ▸ List.mem_cons_self) (without (by decide : '-'.isDigit = false))
    · rename_i plus
      exact absurd (plus ▸ List.mem_cons_self) (without (by decide : '+'.isDigit = false))
    · rfl
  have unbased {mark : Char} (other : mark.isDigit = false) (rest : List Char)
      (based : Nat.toDigits 10 n = '0' :: mark :: rest) : False :=
    without other (based ▸ List.mem_cons_of_mem _ List.mem_cons_self)
  rw [integer?]
  · simp [unsigned, decimalDigits?_toDigits, digitsValue_toDigits, bounded]
  all_goals exact unbased (by decide)

theorem readScalar_word (word : ∀ c ∈ chars, isWordChar c = true) (undated : date? chars = none)
    (rest : List Char) :
    readScalar (chars ++ '\n' :: rest) = (scalar? chars).map fun node => (node, '\n' :: rest) := by
  have taken : (chars ++ '\n' :: rest).takeWhile isWordChar = chars :=
    takeWhile_stopped word fun c first => by cases first; rfl
  rw [readScalar]
  simp [taken, undated]

theorem spelled_scalar {text : String} {node : Node} (some : text.toList ≠ [])
    (word : ∀ c ∈ text.toList, isWordChar c = true) (undated : date? text.toList = none)
    (read : scalar? text.toList = .some node) : Spelled text node := by
  intro fuel rest
  obtain ⟨c, chars, spelled⟩ := List.exists_cons_of_ne_nil some
  have first : isWordChar c = true := word c (spelled ▸ List.mem_cons_self)
  have shown : c ≠ ' ' ∧ c ≠ '\t' := by constructor <;> (rintro rfl; cases first)
  have scalar := readScalar_word word undated rest
  rw [spelled, List.cons_append] at scalar
  rw [spelled, List.cons_append, skipSpaces_space, skipSpaces_cons shown,
    readValue_word _ _ first, scalar, ← spelled, read]
  rfl

theorem spelled_boolean (b : Bool) : Spelled (toString b) (.boolean b) := by
  cases b <;> exact spelled_scalar (by decide) (List.all_eq_true.1 rfl) rfl rfl

theorem spelled_integer {n : Nat} (bounded : n ≤ integerLimit) :
    Spelled (toString n) (.integer n) := by
  have text : (toString n).toList = Nat.toDigits 10 n := by simp
  have unlike {word : List Char} {c : Char} (listed : c ∈ word) (other : c.isDigit = false) :
      Nat.toDigits 10 n ≠ word := by
    rintro rfl
    cases (isDigit_toDigits n c listed).symm.trans other
  refine spelled_scalar (text ▸ toDigits_ne_nil n) ?_ (text ▸ date?_digits (isDigit_toDigits n)) ?_
  · rw [text]
    exact fun c listed => isWordChar_of_isDigit (isDigit_toDigits n c listed)
  · rw [text, scalar?, if_neg (unlike (c := 't') (by simp) (by decide)),
      if_neg (unlike (c := 'f') (by simp) (by decide)), integer?_toDigits bounded]
    rfl

/-! ### Lines -/

/-- A name that stands for itself in front of a value. -/
structure BareName (name : String) : Prop where
  some : name.toList ≠ []
  bare : ∀ c ∈ name.toList, isBareKeyChar c = true

/-- A line of a document: a name, the text of its value and the node that the text stands for. -/
structure Line where
  name : String
  text : String
  node : Node

namespace Line

def written (l : Line) : String := l.name ++ " = " ++ l.text ++ "\n"

structure Readable (l : Line) : Prop where
  named : BareName l.name
  spelled : Spelled l.text l.node

def entry (l : Line) : String × Node := (l.name, l.node)

theorem toList_written (l : Line) : l.written.toList ++ rest
    = l.name.toList ++ ' ' :: '=' :: ' ' :: (l.text.toList ++ '\n' :: rest) := by
  simp [written]

end Line

theorem ne_of_isBareKeyChar {mark : Char} (bare : isBareKeyChar c = true)
    (other : isBareKeyChar mark = false) : c ≠ mark := by
  rintro rfl
  cases bare.symm.trans other

theorem readName_bare {name : String} (named : BareName name) (rest : List Char)
    (stops : ∀ c, rest.head? = some c → isBareKeyChar c = false) :
    readName (name.toList ++ rest) = some (name, rest) := by
  have taken := takeWhile_stopped named.bare stops
  obtain ⟨c, chars, spelled⟩ := List.exists_cons_of_ne_nil named.some
  have first := named.bare c (spelled ▸ List.mem_cons_self)
  have text : name.toList ++ rest = c :: (chars ++ rest) := by rw [spelled, List.cons_append]
  rw [text, readName, if_neg (ne_of_isBareKeyChar first (by decide)),
    if_neg (ne_of_isBareKeyChar first (by decide)), ← text, taken]
  dsimp only
  rw [if_neg named.some, List.drop_left, String.ofList_toList]

/-- The name of a line is its whole key. -/
theorem readKey_bare {name : String} (named : BareName name) (rest : List Char) :
    readKey (name.toList ++ ' ' :: '=' :: rest) = some (([], name), '=' :: rest) := by
  obtain ⟨c, chars, spelled⟩ := List.exists_cons_of_ne_nil named.some
  have first := named.bare c (spelled ▸ List.mem_cons_self)
  have front : skipSpaces (name.toList ++ ' ' :: '=' :: rest)
      = name.toList ++ ' ' :: '=' :: rest := by
    rw [spelled]
    exact skipSpaces_cons
      ⟨ne_of_isBareKeyChar first (by decide), ne_of_isBareKeyChar first (by decide)⟩
  have read := readName_bare named (' ' :: '=' :: rest) fun c first => by cases first; rfl
  have path : readPath nestingLimit (name.toList ++ ' ' :: '=' :: rest)
      = some ([name], '=' :: rest) := by
    rw [nestingLimit, readPath, front, read, Option.bind_some]
    dsimp only
    rw [skipSpaces_space, skipSpaces_cons (by decide)]
    simp
  rw [readKey, path]
  rfl

theorem skipFiller_shown (first : isBareKeyChar c = true) :
    skipFiller false (c :: rest) = some (c :: rest) := by
  have other {mark : Char} (unlike : isBareKeyChar mark = false) : c ≠ mark :=
    ne_of_isBareKeyChar first unlike
  rw [skipFiller]
  · rw [if_neg (by decide), if_neg (other (by decide)),
      if_neg (not_or.2 ⟨other (by decide), other (by decide)⟩)]
  · exact other (by decide)
  · exact fun _ same => absurd same (other (by decide))

/-- A line under a new name adds its entry to the open table. -/
theorem readStatements_line {l : Line} {draft : Draft} (readable : l.Readable) (fuel : Nat)
    (new : Entries.find? draft.entries l.name = none) :
    readStatements (fuel + 1) draft (l.written.toList ++ rest)
      = readStatements fuel { draft with entries := draft.entries ++ [l.entry] } rest := by
  obtain ⟨c, chars, spelled⟩ := List.exists_cons_of_ne_nil readable.named.some
  have first := readable.named.bare c (spelled ▸ List.mem_cons_self)
  have key := readKey_bare readable.named (' ' :: (l.text.toList ++ '\n' :: rest))
  have value := readable.spelled (' ' :: (l.text.toList ++ '\n' :: rest)).length rest
  have added : draft.entries.assign? [] l.name l.node = some (draft.entries ++ [l.entry]) := by
    simp [Entries.assign?, Entries.within, Entries.add?, new, Line.entry]
  rw [Line.toList_written]
  rw [spelled, List.cons_append] at key ⊢
  rw [readStatements, skipFiller_shown first]
  split
  · rename_i none; cases none
  · rename_i none; cases none
  · rename_i header
    exact absurd (List.cons.inj (Option.some.inj header)).1
      (ne_of_isBareKeyChar first (by decide))
  · rename_i shown
    cases shown
    have ended : skipLineEnd ('\n' :: rest) = some rest := rfl
    simp only [key, value, added, ended]

theorem readStatements_lines {lines : List Line} (readable : ∀ l ∈ lines, l.Readable)
    (distinct : (lines.map Line.name).Nodup) {draft : Draft}
    (new : ∀ l ∈ lines, Entries.find? draft.entries l.name = none) {fuel : Nat}
    (enough : lines.length < fuel) :
    readStatements fuel draft (lines.flatMap fun l => l.written.toList)
      = some { draft with entries := draft.entries ++ lines.map Line.entry } := by
  induction lines generalizing draft fuel with
  | nil =>
    obtain ⟨fuel, rfl⟩ := Nat.exists_eq_succ_of_ne_zero (Nat.ne_zero_of_lt enough)
    simp [readStatements, skipFiller]
  | cons l lines ih =>
    obtain ⟨fuel, rfl⟩ := Nat.exists_eq_succ_of_ne_zero (Nat.ne_zero_of_lt enough)
    rw [List.map_cons, List.nodup_cons] at distinct
    have later : ∀ k ∈ lines,
        Entries.find? (draft.entries ++ [l.entry]) k.name = none := by
      intro k listed
      have other : l.name ≠ k.name := fun same =>
        distinct.1 (same ▸ List.mem_map_of_mem listed)
      have absent := new k (List.mem_cons_of_mem _ listed)
      simp only [Entries.find?, Option.map_eq_none_iff] at absent ⊢
      simp [List.find?_append, absent, Line.entry, other]
    rw [List.flatMap_cons, readStatements_line (readable l List.mem_cons_self) fuel
      (new l List.mem_cons_self), ih (fun k listed => readable k (List.mem_cons_of_mem _ listed))
      distinct.2 later (Nat.lt_of_succ_lt_succ enough)]
    simp

theorem length_le_flatMap (lines : List Line) :
    lines.length ≤ (lines.flatMap fun l => l.written.toList).length := by
  induction lines with
  | nil => exact Nat.le_refl 0
  | cons l lines ih =>
    have some : 0 < l.written.toList.length := by
      simp only [Line.written, String.toList_append, List.length_append]
      exact Nat.lt_add_left _ (by decide)
    rw [List.flatMap_cons, List.length_append, List.length_cons]
    omega

/-- A text that does not begin with a byte order mark is read from its first character on. -/
theorem read?_unmarked {text : String} (unmarked : text.toList.head? ≠ some byteOrderMark) :
    read? text = (readStatements (text.toList.length + 1) ⟨[], [], false, []⟩ text.toList).bind
      Draft.close := by
  rw [read?]
  cases spelled : text.toList with
  | nil => rfl
  | cons c rest =>
    have other : c ≠ byteOrderMark := by simpa [spelled] using unmarked
    simp only [if_neg other]

/-- Lines with different names are read into the entries that they stand for. -/
theorem read?_lines {lines : List Line} (readable : ∀ l ∈ lines, l.Readable)
    (distinct : (lines.map Line.name).Nodup) :
    read? (String.join (lines.map Line.written)) = some (lines.map Line.entry) := by
  have text : (String.join (lines.map Line.written)).toList
      = lines.flatMap fun l => l.written.toList := by
    simp [List.flatMap_map]
  have unmarked : (lines.flatMap fun l => l.written.toList).head? ≠ some byteOrderMark := by
    cases lines with
    | nil => simp
    | cons l lines =>
      have named := (readable l List.mem_cons_self).named
      obtain ⟨c, chars, spelled⟩ := List.exists_cons_of_ne_nil named.some
      have first := named.bare c (spelled ▸ List.mem_cons_self)
      have other : c ≠ byteOrderMark := ne_of_isBareKeyChar first (by decide)
      rw [List.flatMap_cons, Line.toList_written, spelled]
      simpa using other
  rw [read?_unmarked (text ▸ unmarked), text, readStatements_lines readable distinct
    (fun _ _ => rfl) (Nat.lt_succ_of_le (length_le_flatMap lines))]
  simp [Draft.close]

/-! ### Codecs -/

/-- The scalar is within the format's limit, and its text needs no escapes. -/
def Scalar.Plain : Scalar → Prop
  | .text s => s.toList ≠ [] ∧ ∀ c ∈ s.toList, isQuotable c = true
  | .boolean _ => True
  | .count n => n ≤ integerLimit

/-- Plain scalars under bare names, all different. -/
structure Plain (scalars : List (String × Scalar)) : Prop where
  bare : ∀ e ∈ scalars, BareName e.1
  distinct : (scalars.map Prod.fst).Nodup
  plain : ∀ e ∈ scalars, e.2.Plain

theorem Plain.perm {scalars rearranged : List (String × Scalar)} (plain : Plain scalars)
    (order : rearranged.Perm scalars) : Plain rearranged where
  bare e listed := plain.bare e (order.mem_iff.1 listed)
  distinct := (order.map _).nodup_iff.2 plain.distinct
  plain e listed := plain.plain e (order.mem_iff.1 listed)

namespace Codec

/-- The text is read as a document with these scalars under their names and nothing else. -/
def Holds (codec : Codec) (text : String) (scalars : List (String × Scalar)) : Prop :=
  ∃ entries, codec.read? text = some entries ∧
    ∀ name, entries.find? name = (nodes scalars).find? name

/-- What is asked of a codec: it prints plain scalars, reads what it has printed, and knows the
lines of the format. -/
structure Lawful (codec : Codec) : Prop where
  print : ∀ scalars, Plain scalars →
    ∃ text, codec.print scalars = .ok text ∧ codec.Holds text scalars
  lines : ∀ scalars, Plain scalars → codec.Holds (document scalars) scalars

end Codec

theorem Scalar.Plain.spelled {scalar : Scalar} (plain : scalar.Plain) :
    Spelled scalar.written scalar.node := by
  cases scalar with
  | text s => exact spelled_quoted plain.1 plain.2
  | boolean b => exact spelled_boolean b
  | count n => exact spelled_integer plain

theorem Scalar.Plain.fits {scalar : Scalar} (plain : scalar.Plain) : scalar.fits = true := by
  cases scalar with
  | count n => exact decide_eq_true plain
  | _ => rfl

theorem read?_document {scalars : List (String × Scalar)} (plain : Plain scalars) :
    read? (document scalars) = some (nodes scalars) := by
  let lines : List Line := scalars.map fun e => ⟨e.1, e.2.written, e.2.node⟩
  have readable : ∀ l ∈ lines, l.Readable := by
    intro l listed
    obtain ⟨e, given, rfl⟩ := List.mem_map.1 listed
    exact ⟨plain.bare e given, (plain.plain e given).spelled⟩
  have distinct : (lines.map Line.name).Nodup := by
    simpa [lines, Function.comp_def] using plain.distinct
  have text : document scalars = String.join (lines.map Line.written) := by
    simp [document, lines, Function.comp_def, Line.written]
  have entries : nodes scalars = lines.map Line.entry := by
    simp [nodes, lines, Function.comp_def, Line.entry]
  rw [text, entries]
  exact read?_lines readable distinct

/-- The codec that prints line by line is lawful. -/
theorem lineCodec_lawful : lineCodec.Lawful where
  print scalars given := by
    have fits : (scalars.all fun e => e.2.fits) = true :=
      List.all_eq_true.2 fun e listed => (given.plain e listed).fits
    exact ⟨document scalars, if_pos fits, nodes scalars, read?_document given, fun _ => rfl⟩
  lines scalars given := ⟨nodes scalars, read?_document given, fun _ => rfl⟩

end IdentityMap.Toml
