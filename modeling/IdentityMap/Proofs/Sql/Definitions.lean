import IdentityMap.Proofs.Rows
import IdentityMap.Proofs.Sql.Names
import Mathlib.Data.List.Basic
/-!
# What the creation of a table declares

The statement that creates a table lists definitions. A row store parts them at the commas that
stand neither in quotes nor in brackets (`Dialect.definitionsIn`); what a definition says behind a
column's name it says in words (`mentions`), and a column is made the primary key by its own
definition or by a clause of its own (`Dialect.designated?`).

A dialect is regular if its definition of a generated key begins with the quoted name, if the words
of its own, the names of types and the rules for generated keys, stay within the definition that
they stand in, and if the rules designate the key while the names of types do not
(`Dialect.Regular`). Its definitions are then read back one by one, and exactly one of them
designates a primary key, the one of the identity column (`Dialect.createTable_declares`).
-/

namespace IdentityMap.Sql

/-! ### Definitions in a text -/

/-- The depth of brackets behind a character, unless it ends what it stands in: a comma outside of
all brackets, or a bracket that closes none. -/
def depthBehind : (depth : Nat) → Char → Option Nat
  | depth, '(' => some (depth + 1)
  | 0, ')' => none
  | depth + 1, ')' => some depth
  | 0, ',' => none
  | depth, _ => some depth

/-- A text put in front of the first part. -/
def joined (front : List Char) (parts : List (List Char)) : List (List Char) :=
  parts.modifyHead (front ++ ·)

/-- The parts of a text between the commas that stand neither in quotes nor in brackets, without
the blanks behind the commas. -/
def partsFrom (q : Quoting) (depth : Nat) (text : List Char) : Option (List (List Char)) :=
  match text with
  | [] => if depth = 0 then some [[]] else none
  | c :: rest =>
    if c = q.opening then
      match _read : q.read? (c :: rest) with
      | none => none
      | some (name, behind) => (partsFrom q depth behind).map (joined (q.quote name).toList)
    else
      match depthBehind depth c with
      | some depth => (partsFrom q depth rest).map (joined [c])
      | none =>
        if c = ',' then (partsFrom q 0 (rest.dropWhile (· = ' '))).map ([] :: ·) else none
termination_by text.length
decreasing_by
  · exact Quoting.length_read? _read
  · exact Nat.lt_succ_self _
  · exact Nat.lt_succ_of_le (List.dropWhile_suffix _).length_le

def Dialect.definitionsIn (d : Dialect) (text : String) : Option (List String) :=
  (partsFrom d.quoting 0 text.toList).map (·.map String.ofList)

section Parts

variable {q : Quoting} {depth after : Nat} {rest : List Char}

theorem Quoting.Marked.ne_opening (marked : q.Marked) {c : Char} (unmarked : c ∉ marks) :
    c ≠ q.opening :=
  fun same => unmarked (same ▸ marked.opening)

theorem joined_nil : joined [] = id := by
  funext parts
  cases parts <;> rfl

theorem map_joined_joined (first later : List Char) (parts : Option (List (List Char))) :
    (parts.map (joined later)).map (joined first) = parts.map (joined (first ++ later)) := by
  rw [Option.map_map]
  congr 1
  funext parts
  cases parts <;> simp [joined]

/-- A text without names belongs to the part that it stands in. -/
theorem partsFrom_plain {text : String} (marked : q.Marked) (plain : isPlain text = true)
    (passed : text.toList.foldlM depthBehind depth = some after) :
    partsFrom q depth (text.toList ++ rest)
      = (partsFrom q after rest).map (joined text.toList) := by
  have unmarked := isPlain_iff.1 plain
  generalize text.toList = text at unmarked passed ⊢
  induction text generalizing depth with
  | nil =>
    obtain rfl : depth = after := by simpa using passed
    simp [joined_nil]
  | cons c text ih =>
    have unopened := marked.ne_opening (unmarked c List.mem_cons_self)
    rw [List.foldlM_cons] at passed
    obtain ⟨behind, step, passed⟩ := Option.bind_eq_some_iff.1 passed
    have later := ih (fun c listed => unmarked c (List.mem_cons_of_mem _ listed)) passed
    rw [List.cons_append, partsFrom, if_neg unopened, step]
    show (partsFrom q behind (text ++ rest)).map (joined [c]) = _
    rw [later, map_joined_joined]
    rfl

theorem partsFrom_quote (identifier : String) (ended : rest.head? ≠ some q.closing) :
    partsFrom q depth ((q.quote identifier).toList ++ rest)
      = (partsFrom q depth rest).map (joined (q.quote identifier).toList) := by
  have read := q.read?_quote identifier ended
  rw [Quoting.toList_quote, List.cons_append] at read ⊢
  rw [partsFrom, if_pos rfl]
  split
  case h_1 unread => cases read.symm.trans unread
  case h_2 again =>
    cases read.symm.trans again
    rw [Quoting.toList_quote]

/-- The text is one part of whatever text it begins. -/
def Quoting.Whole (q : Quoting) (text : String) : Prop :=
  ∀ rest, partsFrom q 0 (text.toList ++ rest) = (partsFrom q 0 rest).map (joined text.toList)

/-- Parts with commas between them are parted again. -/
theorem partsFrom_listed {definitions : List String} (comma : ',' ≠ q.opening)
    (whole : ∀ t ∈ definitions, q.Whole t)
    (begun : ∀ t ∈ definitions, ∃ c ∈ t.toList.head?, c ≠ ' ')
    (nonempty : definitions ≠ []) :
    partsFrom q 0 (Text.listed definitions).toList = some (definitions.map String.toList) := by
  induction definitions with
  | nil => exact absurd rfl nonempty
  | cons t others ih =>
    have first := whole t List.mem_cons_self
    cases others with
    | nil =>
      have alone := first []
      simpa [Text.listed, partsFrom, joined] using alone
    | cons u others =>
      have later := ih (fun v listed => whole v (List.mem_cons_of_mem _ listed))
        (fun v listed => begun v (List.mem_cons_of_mem _ listed)) (by simp)
      obtain ⟨c, head, unblank⟩ := begun u (by simp)
      obtain ⟨chars, begins⟩ := List.head?_eq_some_iff.1 head
      have commas : Text.listed (t :: u :: others) = t ++ ", " ++ Text.listed (u :: others) :=
        String.intercalate_cons_cons
      have unskipped : (Text.listed (u :: others)).toList.dropWhile (· = ' ')
          = (Text.listed (u :: others)).toList := by
        cases others <;>
          simp [Text.listed, String.intercalate_cons_cons, begins, unblank]
      have cut : partsFrom q 0 (", ".toList ++ (Text.listed (u :: others)).toList)
          = some ([] :: (u :: others).map String.toList) := by
        show partsFrom q 0 (',' :: ' ' :: (Text.listed (u :: others)).toList) = _
        rw [partsFrom, if_neg comma]
        simp [depthBehind, unskipped, later]
      rw [commas, String.toList_append, String.toList_append, List.append_assoc, first, cut]
      simp [joined]

end Parts

/-! ### What a definition says -/

/-- The words of a text, with a blank between each two. -/
def words (text : String) : List String := (text.toList.splitOn ' ').map String.ofList

/-- The phrase stands among the words of the text. -/
def mentions (phrase : List String) (text : String) : Prop := phrase <:+: words text

instance (phrase : List String) (text : String) : Decidable (mentions phrase text) :=
  inferInstanceAs (Decidable (_ <:+: _))

/-- What opens a definition that only names the key. -/
def clauseOpening : String := "PRIMARY KEY ("

/-- The column that a definition makes the primary key, if it makes one so. -/
def Dialect.designated? (d : Dialect) (definition : String) : Option String :=
  match d.quoting.read? definition.toList with
  | some (name, ' ' :: attributes) =>
    if mentions ["PRIMARY", "KEY"] (String.ofList attributes) then some name else none
  | some _ => none
  | none =>
    if clauseOpening.toList <+: definition.toList then
      match d.quoting.read? (definition.toList.drop clauseOpening.length) with
      | some (name, [')']) => some name
      | _ => none
    else none

theorem words_append (text behind : String) :
    words (text ++ " " ++ behind) = words text ++ words behind := by
  have blank : (' ' == ' ') = true := rfl
  have split := List.splitOnP_append_cons (p := (· == ' ')) text.toList behind.toList blank
  simp [words, List.splitOn, split]

theorem words_eq_singleton {text : String} (unbroken : ' ' ∉ text.toList) :
    words text = [text] := by
  simp [words, List.splitOn_eq_singleton unbroken]

/-! ### Dialects whose words stay in place -/

/-- The name of a type. Its brackets are closed, no comma stands outside of them, and the words with
which a definition designates a key or refuses null are not among its words. -/
structure TypeName (text : String) : Prop where
  closed : text.toList.foldlM depthBehind 0 = some 0
  unkeyed : "PRIMARY" ∉ words text
  optional : "NULL" ∉ words text

/-- What follows the name of a generated key: it designates the key within one definition. -/
structure KeyRule (text : String) : Prop where
  plain : isPlain text = true
  closed : text.toList.foldlM depthBehind 0 = some 0
  keyed : mentions ["PRIMARY", "KEY"] text

/-- What a dialect writes of its own stays within one definition, and designates a key where the row
store generates it, and nowhere else. The definition of a generated key begins with its name. -/
structure Dialect.Regular (d : Dialect) : Prop where
  marked : d.quoting.Marked
  typePlain : ∀ type name, d.nativeType type = some name → isPlain name = true
  typeName : ∀ type name, d.nativeType type = some name → TypeName name
  generatedKey : ∀ name type, type.isInteger = true →
    ∃ rule, d.generatedKey name type = d.quote name ++ " " ++ rule ∧ KeyRule rule

section BuiltIn

variable {base inner : String}

/-- Letters and digits leave the depth of brackets as it is, and so do commas inside of brackets. -/
theorem depth_of_plain {depth : Nat} {text : List Char}
    (plain : ∀ c ∈ text, c ≠ '(' ∧ c ≠ ')' ∧ (c = ',' → depth ≠ 0)) :
    text.foldlM depthBehind depth = some depth := by
  induction text with
  | nil => rfl
  | cons c text ih =>
    obtain ⟨unopened, unclosed, bracketed⟩ := plain c List.mem_cons_self
    have step : depthBehind depth c = some depth := by
      unfold depthBehind
      split <;> simp_all
    rw [List.foldlM_cons, step]
    exact ih fun c listed => plain c (List.mem_cons_of_mem _ listed)

/-- The characters of measures, which are numbers with commas between them. -/
def isMeasure (c : Char) : Bool := c.isDigit || c = ','

theorem all_isMeasure_toString (n : Nat) : (toString n).toList.all isMeasure = true := by
  refine List.all_eq_true.2 fun c listed => ?_
  simp [isMeasure, List.all_eq_true.1 (all_isDigit_toString n) c listed]

theorem depth_measured (letters : base.toList.all Char.isUpper = true)
    (measures : inner.toList.all isMeasure = true) :
    (base ++ "(" ++ inner ++ ")").toList.foldlM depthBehind 0 = some 0 := by
  have outside : base.toList.foldlM depthBehind 0 = some 0 :=
    depth_of_plain fun c listed => by
      have unmarked := apart_of_class letters (by decide : ['(', ')', ','].all _ = true) c listed
      simp_all
  have inside : inner.toList.foldlM depthBehind 1 = some 1 :=
    depth_of_plain fun c listed => by
      have unmarked := apart_of_class measures (by decide : ['(', ')'].all _ = true) c listed
      simp_all
  simp [outside, inside, depthBehind]

/-- A type with measures is one word, and this word has a bracket. -/
theorem not_mem_words_measured (letters : base.toList.all Char.isUpper = true)
    (measures : inner.toList.all isMeasure = true) {word : String} (plain : '(' ∉ word.toList) :
    word ∉ words (base ++ "(" ++ inner ++ ")") := by
  have unbroken : ' ' ∉ (base ++ "(" ++ inner ++ ")").toList := by
    intro broken
    rcases (by simpa using broken : ' ' ∈ base.toList ∨ ' ' ∈ inner.toList) with blank | blank
    · exact apart_of_class letters (by decide : [' '].all _ = true) _ blank (by simp)
    · exact apart_of_class measures (by decide : [' '].all _ = true) _ blank (by simp)
  rw [words_eq_singleton unbroken]
  intro same
  exact plain (List.mem_singleton.1 same ▸ by simp)

theorem typeName_measured (letters : base.toList.all Char.isUpper = true)
    (measures : inner.toList.all isMeasure = true) : TypeName (base ++ "(" ++ inner ++ ")") where
  closed := depth_measured letters measures
  unkeyed := not_mem_words_measured letters measures (by decide)
  optional := not_mem_words_measured letters measures (by decide)

theorem typeName_sized {unlimited : String} (letters : base.toList.all Char.isUpper = true)
    (named : TypeName unlimited) (limit : Option Nat) : TypeName (sized base limit unlimited) := by
  cases limit with
  | none => exact named
  | some limit => exact typeName_measured letters (all_isMeasure_toString limit)

theorem typeName_scaled (letters : base.toList.all Char.isUpper = true) (precision scale : Nat) :
    TypeName (scaled base precision scale) := by
  have comma : isMeasure ',' = true := by decide
  have measures : (toString precision ++ "," ++ toString scale).toList.all isMeasure = true := by
    rw [String.toList_append, String.toList_append, List.all_append, List.all_append,
      all_isMeasure_toString, all_isMeasure_toString]
    simp [comma]
  simpa [scaled, String.append_assoc] using typeName_measured letters measures

instance (text : String) : Decidable (TypeName text) :=
  decidable_of_iff
    (text.toList.foldlM depthBehind 0 = some 0 ∧ "PRIMARY" ∉ words text ∧ "NULL" ∉ words text)
    ⟨fun ⟨closed, unkeyed, optional⟩ => ⟨closed, unkeyed, optional⟩,
      fun ⟨closed, unkeyed, optional⟩ => ⟨closed, unkeyed, optional⟩⟩

theorem typeName_nativeType (kind : DialectKind) (type : ScalarType) :
    ∀ name ∈ kind.dialect.nativeType type, TypeName name := by
  cases type
  case decimal precision scale =>
    cases kind <;> rintro _ ⟨⟩ <;>
      first
      | decide +kernel
      | exact typeName_scaled (by decide) precision scale
  case string limit | binary limit =>
    cases kind <;> rintro _ ⟨⟩ <;>
      first
      | decide +kernel
      | exact typeName_sized (by decide) (by decide +kernel) limit
  case other => cases kind <;> rintro _ ⟨⟩
  all_goals cases kind <;> rintro _ ⟨⟩ <;> decide +kernel

theorem keyRule_builtIn (kind : DialectKind) {type : ScalarType}
    (counted : type.isInteger = true) : KeyRule (kind.keyRule type) := by
  refine ⟨isPlain_keyRule kind type, ?_, ?_⟩ <;> cases type <;>
    simp [ScalarType.isInteger] at counted <;> cases kind <;> decide +kernel

theorem regular_builtIn (kind : DialectKind) : kind.dialect.Regular where
  marked := marked_builtIn kind
  typePlain type := isPlain_nativeType kind type
  typeName type := typeName_nativeType kind type
  generatedKey name type counted :=
    ⟨kind.keyRule type, generatedKey_builtIn kind name type, keyRule_builtIn kind counted⟩

end BuiltIn

/-! ### The definitions of a table -/

namespace Dialect

/-- What stands behind the name of a column whose values are given. -/
def typing (d : Dialect) (c : Column) : String :=
  d.columnType c ++ if c.nullable then "" else " NOT NULL"

/-- The definition of a column. -/
def defined (d : Dialect) (c : Column) : String :=
  if c.generated then d.generatedKey c.name c.type else d.quote c.name ++ " " ++ d.typing c

/-- The definition that only names the key. -/
def keyClause (d : Dialect) (m : TableMapping) : String :=
  clauseOpening ++ d.quote m.keyColumn.name ++ ")"

def definitions (d : Dialect) (m : TableMapping) : List String :=
  m.columns.map d.defined ++ if m.keyColumn.generated then [] else [d.keyClause m]

variable {d : Dialect} {m : TableMapping} {c : Column}

theorem columnDefinition_columnDef (d : Dialect) (c : Column) :
    d.columnDefinition (d.columnDef c) = d.defined c := by
  unfold defined typing columnDef
  cases c.generated <;> cases c.nullable <;> simp [columnDefinition, String.append_assoc]

theorem tableDefinition_eq (d : Dialect) (m : TableMapping) :
    d.tableDefinition (m.columns.map d.columnDef)
        (if m.keyColumn.generated then none else some m.keyColumn.name)
      = Text.listed (d.definitions m) := by
  have columns : (m.columns.map d.columnDef).map d.columnDefinition = m.columns.map d.defined := by
    rw [List.map_map]
    exact List.map_congr_left fun c _ => columnDefinition_columnDef d c
  rw [tableDefinition, columns, definitions]
  cases m.keyColumn.generated <;> rfl

/-! ### The definitions are read back -/

theorem Regular.columnType (regular : d.Regular) (c : Column) :
    isPlain (d.columnType c) = true ∧ TypeName (d.columnType c) := by
  unfold Dialect.columnType
  cases native : d.nativeType c.type with
  | none => exact ⟨by decide, by decide +kernel⟩
  | some name => exact ⟨regular.typePlain _ _ native, regular.typeName _ _ native⟩

theorem words_typing (d : Dialect) (c : Column) :
    words (d.typing c) = words (d.columnType c) ++ if c.nullable then [] else ["NOT", "NULL"] := by
  have refusal : words "NOT NULL" = ["NOT", "NULL"] := by decide +kernel
  cases nullable : c.nullable with
  | true => simp [typing, nullable]
  | false =>
    have behind := words_append (d.columnType c) "NOT NULL"
    rw [refusal, String.append_assoc] at behind
    simpa [typing, nullable] using behind

/-- The definition of a column is its name and these attributes, which stay within the definition
and designate a key if the row store generates it. -/
structure Attributes (d : Dialect) (c : Column) (attributes : String) : Prop where
  defined : d.defined c = d.quote c.name ++ " " ++ attributes
  plain : isPlain attributes = true
  closed : attributes.toList.foldlM depthBehind 0 = some 0
  keyed : mentions ["PRIMARY", "KEY"] attributes ↔ c.generated = true
  required : c.generated = false → (mentions ["NOT", "NULL"] attributes ↔ c.nullable = false)

theorem Regular.typing (regular : d.Regular) (stored : c.generated = false) :
    d.Attributes c (d.typing c) := by
  obtain ⟨plain, named⟩ := regular.columnType c
  refine ⟨by simp [Dialect.defined, stored], ?plain, ?closed, ?keyed, fun _ => ?required⟩
  case plain =>
    unfold Dialect.typing
    split
    · simpa using plain
    · exact isPlain_append plain (by decide)
  case closed =>
    have refusal : " NOT NULL".toList.foldlM depthBehind 0 = some 0 := by decide
    unfold Dialect.typing
    split
    · simpa using named.closed
    · rw [String.toList_append, List.foldlM_append, named.closed]
      exact refusal
  case keyed =>
    refine iff_of_false (fun said => ?_) (by simp [stored])
    have mem := said.subset (by simp : "PRIMARY" ∈ ["PRIMARY", "KEY"])
    rw [words_typing] at mem
    rcases List.mem_append.1 mem with typed | refused
    · exact named.unkeyed typed
    · cases c.nullable <;> simp at refused
  case required =>
    rw [mentions, words_typing]
    cases c.nullable with
    | true =>
      refine iff_of_false (fun said => named.optional ?_) (by simp)
      simpa using said.subset (by simp : "NULL" ∈ ["NOT", "NULL"])
    | false => exact iff_of_true (List.suffix_append _ _).isInfix rfl

theorem Regular.attributes (regular : d.Regular)
    (counted : c.generated = true → c.type.isInteger = true) :
    ∃ attributes, d.Attributes c attributes := by
  cases generated : c.generated with
  | false => exact ⟨d.typing c, regular.typing generated⟩
  | true =>
    obtain ⟨rule, defined, designates⟩ := regular.generatedKey c.name c.type (counted generated)
    exact ⟨rule, by rw [Dialect.defined, if_pos generated, defined], designates.plain,
      designates.closed, iff_of_true designates.keyed generated, by simp [generated]⟩

theorem whole_defined (regular : d.Regular) {attributes : String}
    (has : d.Attributes c attributes) : d.quoting.Whole (d.defined c) := by
  intro rest
  have spaced : isPlain (" " ++ attributes) = true := isPlain_append (by decide) has.plain
  have passed : (" " ++ attributes).toList.foldlM depthBehind 0 = some 0 := by
    rw [String.toList_append, List.foldlM_append]
    exact has.closed
  have ended := (passes_plain regular.marked spaced (by simp)).parts rest
  rw [has.defined, String.append_assoc, String.toList_append, List.append_assoc, quote,
    partsFrom_quote c.name ended, partsFrom_plain regular.marked spaced passed, map_joined_joined]

theorem whole_keyClause (regular : d.Regular) : d.quoting.Whole (d.keyClause m) := by
  intro rest
  have marked := regular.marked
  have bracket : isPlain ")" = true := by decide
  have ended := (passes_plain marked bracket (by simp)).parts rest
  have opened (rest : List Char) : partsFrom d.quoting 0 (clauseOpening.toList ++ rest)
      = (partsFrom d.quoting 1 rest).map (joined clauseOpening.toList) :=
    partsFrom_plain marked (by decide) (by decide)
  have closed : partsFrom d.quoting 1 (")".toList ++ rest)
      = (partsFrom d.quoting 0 rest).map (joined ")".toList) :=
    partsFrom_plain marked bracket (by decide)
  rw [keyClause, String.toList_append, String.toList_append, List.append_assoc, List.append_assoc,
    opened, quote, partsFrom_quote m.keyColumn.name ended, closed, map_joined_joined,
    map_joined_joined, List.append_assoc]

/-! ### The key among the definitions -/

theorem designated?_defined (regular : d.Regular) {attributes : String}
    (has : d.Attributes c attributes) :
    d.designated? (d.defined c) = if c.generated then some c.name else none := by
  have spaced : isPlain (" " ++ attributes) = true := isPlain_append (by decide) has.plain
  have ended := (passes_plain regular.marked spaced (by simp)).parts []
  have read := Quoting.read?_quote c.name ended
  have spelled : (d.defined c).toList
      = (d.quoting.quote c.name).toList ++ ((" " ++ attributes).toList ++ []) := by
    simp [has.defined, quote]
  rw [designated?, spelled, read]
  simp [has.keyed]

theorem designated?_keyClause (regular : d.Regular) :
    d.designated? (d.keyClause m) = some m.keyColumn.name := by
  have bracket := (passes_plain regular.marked (by decide : isPlain ")" = true) (by simp)).parts []
  have read := Quoting.read?_quote m.keyColumn.name bracket
  have spelled : (d.keyClause m).toList = clauseOpening.toList
      ++ ((d.quoting.quote m.keyColumn.name).toList ++ (")".toList ++ [])) := by
    simp [keyClause, quote]
  have unnamed : d.quoting.read? (d.keyClause m).toList = none := by
    rw [spelled]
    exact if_neg (regular.marked.ne_opening (by decide : 'P' ∉ marks))
  have begins : clauseOpening.toList <+: (d.keyClause m).toList := by
    rw [spelled]
    exact List.prefix_append _ _
  have left : (d.keyClause m).toList.drop clauseOpening.length
      = (d.quoting.quote m.keyColumn.name).toList ++ (")".toList ++ []) := by
    rw [spelled]
    exact List.drop_left' (String.length_toList ..)
  rw [designated?, unnamed]
  simp only [if_pos begins, left, read]
  rfl

/-! ### The key column of a mapping -/

theorem keyColumn_mem (m : TableMapping) : m.keyColumn ∈ m.columns :=
  List.mem_map_of_mem m.entityType.wellFormed.keyDeclared

theorem isKey_iff (mapped : c ∈ m.columns) : c.isKey = true ↔ c = m.keyColumn := by
  obtain ⟨f, declared, rfl⟩ := List.mem_map.1 mapped
  have key : m.keyColumn.isKey = true := by simp [TableMapping.keyColumn, EntityType.columnOf]
  refine ⟨fun isKey => ?_, fun same => same ▸ key⟩
  have named : f.name = m.entityType.key.name := by simpa [EntityType.columnOf] using isKey
  rw [m.entityType.field_eq declared m.entityType.wellFormed.keyDeclared named]
  rfl

theorem generated_iff (mapped : c ∈ m.columns) :
    c.generated = true ↔ c = m.keyColumn ∧ m.entityType.assignment = .backend := by
  rw [← isKey_iff mapped]
  obtain ⟨f, -, rfl⟩ := List.mem_map.1 mapped
  simp [EntityType.columnOf]

theorem isInteger_of_generated (mapped : c ∈ m.columns) (generated : c.generated = true) :
    c.type.isInteger = true := by
  obtain ⟨rfl, assigned⟩ := (generated_iff mapped).1 generated
  exact m.entityType.wellFormed.keyInteger (by simp [assigned])

theorem filter_generated (m : TableMapping) :
    m.columns.filter Column.generated = if m.keyColumn.generated then [m.keyColumn] else [] := by
  cases generated : m.keyColumn.generated with
  | true =>
    refine filter_of_apart m.entityType.fields_apart (keyColumn_mem m) generated ?_
    intro c mapped found
    rw [((generated_iff mapped).1 found).1]
  | false =>
    refine List.filter_eq_nil_iff.2 fun c mapped found => ?_
    obtain ⟨rfl, -⟩ := (generated_iff mapped).1 found
    rw [generated] at found
    cases found

/-! ### Definitions in the text of the statement -/

/-- What holds of the definition of each column and of the clause holds of all definitions. -/
theorem forall_definitions {P : String → Prop} (columns : ∀ c ∈ m.columns, P (d.defined c))
    (clause : P (d.keyClause m)) : ∀ t ∈ d.definitions m, P t := by
  intro t listed
  rcases List.mem_append.1 listed with column | key
  · obtain ⟨c, mapped, rfl⟩ := List.mem_map.1 column
    exact columns c mapped
  · cases generated : m.keyColumn.generated with
    | true => simp [generated] at key
    | false =>
      obtain rfl : t = d.keyClause m := by simpa [generated] using key
      exact clause

theorem Regular.mapped (regular : d.Regular) (mapped : c ∈ m.columns) :
    ∃ attributes, d.Attributes c attributes :=
  regular.attributes (isInteger_of_generated mapped)

theorem definitionsIn_listed (regular : d.Regular) :
    d.definitionsIn (Text.listed (d.definitions m)) = some (d.definitions m) := by
  have whole : ∀ t ∈ d.definitions m, d.quoting.Whole t := by
    refine forall_definitions (fun c mapped => ?_) (whole_keyClause regular)
    obtain ⟨attributes, has⟩ := regular.mapped mapped
    exact whole_defined regular has
  have blank := regular.marked.ne_opening (by decide : ' ' ∉ marks)
  have begun : ∀ t ∈ d.definitions m, ∃ c ∈ t.toList.head?, c ≠ ' ' := by
    refine forall_definitions (fun c mapped => ⟨d.quoting.opening, ?_, blank.symm⟩)
      ⟨'P', by simp [keyClause, clauseOpening], by decide⟩
    obtain ⟨attributes, has⟩ := regular.mapped mapped
    simp [has.defined, quote, Quoting.toList_quote]
  have nonempty : d.definitions m ≠ [] := by
    have mapped := List.ne_nil_of_mem (keyColumn_mem m)
    simp [definitions, mapped]
  have comma := regular.marked.ne_opening (by decide : ',' ∉ marks)
  rw [definitionsIn, partsFrom_listed comma whole begun nonempty]
  simp

theorem Regular.inside (regular : d.Regular) (mapped : c ∈ m.columns) :
    d.designated? (d.defined c) = if c.generated then some c.name else none := by
  obtain ⟨attributes, has⟩ := regular.mapped mapped
  exact designated?_defined regular has

theorem filterMap_designated? (regular : d.Regular) :
    (d.definitions m).filterMap d.designated? = [m.keyColumn.name] := by
  have columns : (m.columns.map d.defined).filterMap d.designated?
      = (m.columns.filter Column.generated).map Column.name := by
    rw [List.filterMap_map, ← List.filterMap_eq_filter, List.map_filterMap]
    refine List.filterMap_congr fun c mapped => ?_
    rw [Function.comp_apply, regular.inside mapped]
    cases generated : c.generated <;> simp [Option.guard, generated]
  have clause := designated?_keyClause (m := m) regular
  rw [definitions, List.filterMap_append, columns, filter_generated]
  cases m.keyColumn.generated <;> simp [clause]

/-- What the statement that creates a table declares; `define` is the definition of a column. -/
structure Declares (d : Dialect) (m : TableMapping) (define : Column → String)
    (definitions : List String) : Prop where
  text : (d.createTable m).sql
    = d.createTableOpening (d.quote m.table) ++ " (" ++ Text.listed definitions ++ ")"
  /-- One definition for each column, in order, and one more for a key that is not generated. -/
  each : definitions = m.columns.map define
    ++ if m.keyColumn.generated then [] else ["PRIMARY KEY (" ++ d.quote m.keyColumn.name ++ ")"]
  stored : ∀ c ∈ m.columns, c.generated = false →
    define c = d.quote c.name ++ " " ++ (d.columnType c ++ if c.nullable then "" else " NOT NULL")
  generated : ∀ c ∈ m.columns, c.generated = true → define c = d.generatedKey c.name c.type
  /-- The key's column is one of the columns, and no other column is generated. -/
  key : m.keyColumn ∈ m.columns ∧ m.keyColumn.field = m.entityType.key.name ∧
    ∀ c ∈ m.columns, c.generated = true ↔ c = m.keyColumn ∧ m.entityType.assignment = .backend

/-- What a row store reads from these definitions. -/
structure ReadsBack (d : Dialect) (m : TableMapping) (define : Column → String)
    (definitions : List String) : Prop where
  parted : d.definitionsIn (Text.listed definitions) = some definitions
  /-- Each definition begins with the quoted name; null is refused behind it where it has to be. -/
  begun : ∀ c ∈ m.columns, ∃ attributes, define c = d.quote c.name ++ " " ++ attributes ∧
    (c.generated = false → (mentions ["NOT", "NULL"] attributes ↔ c.nullable = false))
  /-- The definition of a column designates the key if the row store generates it. -/
  inside : ∀ c ∈ m.columns, d.designated? (define c) = if c.generated then some c.name else none
  once : definitions.filterMap d.designated? = [m.keyColumn.name]

theorem declares_definitions (d : Dialect) (m : TableMapping) :
    d.Declares m d.defined (d.definitions m) where
  text := congrArg (d.createTableOpening (d.quote m.table) ++ " (" ++ · ++ ")")
    (d.tableDefinition_eq m)
  each := rfl
  stored c _ stored := by simp [defined, typing, stored]
  generated c _ generated := by simp [defined, generated]
  key := ⟨keyColumn_mem m, rfl, fun _ => generated_iff⟩

theorem Regular.readsBack (regular : d.Regular) (m : TableMapping) :
    d.ReadsBack m d.defined (d.definitions m) where
  parted := definitionsIn_listed regular
  begun c mapped := by
    obtain ⟨attributes, has⟩ := regular.mapped mapped
    exact ⟨attributes, has.defined, has.required⟩
  inside _ := regular.inside
  once := filterMap_designated? regular

/-- Creating a table declares its mapping, whichever column the key's is. There is one definition
for each column, in order. It has the column's quoted name, its type, and the refusal of null where
null is not allowed, unless the row store generates the column: then it is the dialect's own. In a
regular dialect, and each built-in one is regular, each definition begins with the quoted name, the
definitions are read back one by one from the text, and among them exactly one designates a primary
key, that of the key's column: its own definition if the row store generates the key, and otherwise
a clause behind all columns. -/
theorem createTable_declares :
    (∀ kind : DialectKind, kind.dialect.Regular) ∧
    ∀ (d : Dialect) (m : TableMapping), ∃ define definitions,
      d.Declares m define definitions ∧ (d.Regular → d.ReadsBack m define definitions) :=
  ⟨regular_builtIn, fun d m => ⟨d.defined, d.definitions m, d.declares_definitions m,
    fun regular => regular.readsBack m⟩⟩

/-! ### A table whose key stands between other columns -/

/-- A key whose column has a name that would name another key if it were written as it is. -/
def entryKey : Field := ⟨"id", "id, PRIMARY KEY (code)", .bigInt, false⟩

def entryFields : List Field :=
  [⟨"code", "code", .string (some 8), false⟩, entryKey, ⟨"price", "price", .decimal 10 2, true⟩]

def entry (assignment : KeyAssignment) : EntityType where
  name := "Entry"
  table := "entry"
  fields := entryFields
  key := entryKey
  assignment := assignment
  indexes := []
  wellFormed := {
    named := (by decide +kernel : Text.blank "Entry" = false)
    tabled := (by decide +kernel : Text.blank "entry" = false)
    fields := (⟨by decide +kernel, by decide +kernel, by decide +kernel⟩ :
      FieldsWellFormed entryFields)
    keyDeclared := (by simp [entryFields] : entryKey ∈ entryFields)
    keyRequired := rfl
    keyType := rfl
    keyInteger := fun _ => rfl
    indexes := by simp }

theorem createTable_declares_entry :
    (∃ define definitions, Dialect.sqlite.Regular ∧
      Dialect.sqlite.Declares ⟨entry .backend⟩ define definitions ∧
      Dialect.sqlite.ReadsBack ⟨entry .backend⟩ define definitions ∧
      definitions.length = 3) ∧
    (Dialect.sqlite.createTable ⟨entry .backend⟩).sql
      = "CREATE TABLE IF NOT EXISTS \"entry\" (\"code\" TEXT NOT NULL, "
        ++ "\"id, PRIMARY KEY (code)\" INTEGER PRIMARY KEY AUTOINCREMENT, \"price\" TEXT)" ∧
    (∃ define definitions, Dialect.sqlServer.Regular ∧
      Dialect.sqlServer.Declares ⟨entry .sequence⟩ define definitions ∧
      Dialect.sqlServer.ReadsBack ⟨entry .sequence⟩ define definitions ∧
      definitions.length = 4) ∧
    (Dialect.sqlServer.createTable ⟨entry .sequence⟩).sql
      = "IF OBJECT_ID(N'entry', N'U') IS NULL CREATE TABLE [entry] ([code] NVARCHAR(8) NOT NULL, "
        ++ "[id, PRIMARY KEY (code)] BIGINT NOT NULL, [price] DECIMAL(10,2), "
        ++ "PRIMARY KEY ([id, PRIMARY KEY (code)]))" := by
  obtain ⟨regular, declared⟩ := createTable_declares
  refine ⟨?_, by decide +kernel, ?_, by decide +kernel⟩
  · obtain ⟨define, definitions, declares, reads⟩ := declared .sqlite ⟨entry .backend⟩
    refine ⟨define, definitions, regular .sqlite, declares, reads (regular .sqlite), ?_⟩
    rw [declares.each]
    rfl
  · obtain ⟨define, definitions, declares, reads⟩ := declared .sqlServer ⟨entry .sequence⟩
    refine ⟨define, definitions, regular .sqlServer, declares, reads (regular .sqlServer), ?_⟩
    rw [declares.each]
    rfl

end Dialect

end IdentityMap.Sql
