import IdentityMap.Proofs.Sql.Spelling
/-!
# Names in the text of statements

A row store takes a quoted name from its opening character to the first closing character that is
not doubled (`Quoting.read?`). Whatever characters a name has, its quoted form is read back as
exactly this name, if no closing character stands behind it (`Quoting.read?_eq_some_iff`); a name
cannot end its own quotes and go on as SQL.

The same holds of whole statements (`Dialect.names_of_statements`): `Dialect.namesIn` takes down
every quoted name of a text, and finds the declared names of the table, its columns and its indexes
and no others. Text between names holds neither quotes nor brackets (`isPlain`), except for the
string literal by which one dialect tests for a table; it is read as a literal and passed over.
-/

namespace IdentityMap.Sql

/-! ### Reading a quoted name -/

namespace Quoting

/-- Splits the text of an opened name: the name, and what stands behind its closing character. -/
def readInside (q : Quoting) : List Char → Option (List Char × List Char)
  | [] => none
  | [c] => if c = q.closing then some ([], []) else none
  | c :: d :: rest =>
    if c = q.closing then
      if d = q.closing then (q.readInside rest).map fun (name, behind) => (c :: name, behind)
      else some ([], d :: rest)
    else (q.readInside (d :: rest)).map fun (name, behind) => (c :: name, behind)

/-- The name that the text begins with in quotes, and what stands behind it. -/
def read? (q : Quoting) : List Char → Option (String × List Char)
  | [] => none
  | c :: rest =>
    if c = q.opening then
      (q.readInside rest).map fun (name, behind) => (String.ofList name, behind)
    else none

/-- What a name's characters are written as inside quotes. -/
def doubled (q : Quoting) (name : List Char) : List Char :=
  name.flatMap fun c => if c = q.closing then [c, c] else [c]

variable {q : Quoting} {c : Char} {name text rest : List Char}

theorem toList_quote (q : Quoting) (identifier : String) :
    (q.quote identifier).toList = q.opening :: (q.doubled identifier.toList ++ [q.closing]) := by
  simp [quote, doubled]

@[simp] theorem doubled_nil : q.doubled [] = [] := rfl

theorem doubled_closing :
    q.doubled (q.closing :: name) = q.closing :: q.closing :: q.doubled name := by
  simp [doubled]

theorem doubled_cons (other : c ≠ q.closing) : q.doubled (c :: name) = c :: q.doubled name := by
  simp [doubled, other]

theorem readInside_doubling :
    q.readInside (q.closing :: q.closing :: rest)
      = (q.readInside rest).map fun (name, behind) => (q.closing :: name, behind) := by
  simp [readInside]

theorem readInside_end (ended : rest.head? ≠ some q.closing) :
    q.readInside (q.closing :: rest) = some ([], rest) := by
  cases rest with
  | nil => simp [readInside]
  | cons c rest =>
    have undoubled : c ≠ q.closing := by simpa using ended
    simp [readInside, undoubled]

theorem readInside_cons (other : c ≠ q.closing) :
    q.readInside (c :: rest)
      = (q.readInside rest).map fun (name, behind) => (c :: name, behind) := by
  cases rest <;> simp [readInside, other]

theorem readInside_doubled (name : List Char) (ended : rest.head? ≠ some q.closing) :
    q.readInside (q.doubled name ++ q.closing :: rest) = some (name, rest) := by
  induction name with
  | nil => exact readInside_end ended
  | cons c name ih =>
    by_cases closes : c = q.closing
    · subst closes
      simp [doubled_closing, readInside_doubling, ih]
    · simp [doubled_cons closes, readInside_cons closes, ih]

/-- Nothing else is read as this name. -/
theorem eq_of_readInside (read : q.readInside text = some (name, rest)) :
    text = q.doubled name ++ q.closing :: rest ∧ rest.head? ≠ some q.closing := by
  fun_induction q.readInside text generalizing name with
  | case1 => cases read
  | case2 =>
    cases read
    simp
  | case3 => cases read
  | case4 _ ih =>
    obtain ⟨⟨tail, behind⟩, inside, joined⟩ := Option.map_eq_some_iff.1 read
    cases joined
    obtain ⟨rfl, ended⟩ := ih inside
    simp [doubled_closing, ended]
  | case5 d _ undoubled =>
    cases read
    simpa using undoubled
  | case6 c d _ other ih =>
    obtain ⟨⟨tail, behind⟩, inside, joined⟩ := Option.map_eq_some_iff.1 read
    cases joined
    obtain ⟨spelled, ended⟩ := ih inside
    simp [doubled_cons other, spelled, ended]

/-- A name is read where its quoted form stands, parted from what follows, and nowhere else. -/
theorem read?_eq_some_iff {identifier : String} :
    q.read? text = some (identifier, rest)
      ↔ text = (q.quote identifier).toList ++ rest ∧ rest.head? ≠ some q.closing := by
  rw [toList_quote]
  constructor
  · intro read
    cases text with
    | nil => cases read
    | cons c text =>
      by_cases opens : c = q.opening
      · rw [read?, if_pos opens] at read
        obtain ⟨⟨name, behind⟩, inside, joined⟩ := Option.map_eq_some_iff.1 read
        cases joined
        obtain ⟨rfl, ended⟩ := eq_of_readInside inside
        simp [opens, ended]
      · simp [read?, opens] at read
  · rintro ⟨rfl, ended⟩
    have inside := readInside_doubled identifier.toList ended
    simp [read?, inside]

theorem read?_quote (identifier : String) (ended : rest.head? ≠ some q.closing) :
    q.read? ((q.quote identifier).toList ++ rest) = some (identifier, rest) :=
  read?_eq_some_iff.2 ⟨rfl, ended⟩

theorem quote_injective (q : Quoting) : Function.Injective q.quote := by
  intro first second same
  have unended : ([] : List Char).head? ≠ some q.closing := by simp
  have read := read?_quote (q := q) first unended
  rw [same, read?_quote second unended] at read
  simpa using read.symm

theorem length_read? {identifier : String} (read : q.read? text = some (identifier, rest)) :
    rest.length < text.length := by
  obtain ⟨rfl, -⟩ := read?_eq_some_iff.1 read
  rw [toList_quote, List.length_append, List.length_cons]
  omega

end Quoting

/-! ### Reading a statement -/

/-- A string literal is quoted by apostrophes, and doubles them inside. -/
def literal : Quoting := ⟨'\x27', '\x27'⟩

/-- The names that stand in quotes in a text, from left to right. String literals are passed over.
A text in which a name or a literal does not end is not read. -/
def namesFrom (q : Quoting) (text : List Char) : Option (List String) :=
  match text with
  | [] => some []
  | c :: rest =>
    if c = q.opening then
      match _read : q.read? (c :: rest) with
      | none => none
      | some (name, behind) => (namesFrom q behind).map (name :: ·)
    else if c = literal.opening then
      match _read : literal.read? (c :: rest) with
      | none => none
      | some (_, behind) => namesFrom q behind
    else namesFrom q rest
termination_by text.length
decreasing_by
  · exact Quoting.length_read? _read
  · exact Quoting.length_read? _read
  · exact Nat.lt_succ_self _

def Dialect.namesIn (d : Dialect) (sql : String) : Option (List String) :=
  namesFrom d.quoting sql.toList

/-- The characters by which a dialect sets names and literals apart. -/
def marks : List Char := ['"', Quoting.graves.opening, '[', ']', '\x27']

/-- Holds no such character. -/
def isPlain (text : String) : Bool := text.toList.all fun c => c ∉ marks

/-- Characters of one class are none of those that are not of this class. -/
theorem apart_of_class {ofClass : Char → Bool} {chars others : List Char}
    (all : chars.all ofClass = true) (apart : others.all (fun c => !ofClass c) = true) :
    ∀ c ∈ chars, c ∉ others := by
  intro c listed other
  have outside := List.all_eq_true.1 apart c other
  simp [List.all_eq_true.1 all c listed] at outside

section Plain

variable {text behind : String}

theorem isPlain_iff : isPlain text = true ↔ ∀ c ∈ text.toList, c ∉ marks := by
  simp [isPlain]

theorem isPlain_append (plain : isPlain text = true) (more : isPlain behind = true) :
    isPlain (text ++ behind) = true := by
  simpa [isPlain] using And.intro (isPlain_iff.1 plain) (isPlain_iff.1 more)

theorem all_isDigit_toString (n : Nat) : (toString n).toList.all Char.isDigit = true := by
  refine List.all_eq_true.2 fun c listed => ?_
  have listed : c ∈ Nat.toDigits 10 n := by simpa using listed
  exact Nat.isDigit_of_mem_toDigits (by decide) (by decide) listed

theorem isPlain_toString (n : Nat) : isPlain (toString n) = true :=
  isPlain_iff.2 (apart_of_class (all_isDigit_toString n) (by decide))

theorem isPlain_words (spelled : isWords text = true) : isPlain text = true :=
  isPlain_iff.2 (apart_of_class (Bool.and_eq_true_iff.1 spelled).2 (by decide))

theorem isPlain_placeholder (kind : DialectKind) (position : Nat) :
    isPlain (kind.dialect.placeholder.text position) = true := by
  cases kind
  case postgres =>
    exact isPlain_append (by decide : isPlain "$" = true) (isPlain_toString position)
  case sqlServer =>
    exact isPlain_append (by decide : isPlain "@p" = true) (isPlain_toString position)
  all_goals exact (by decide : isPlain "?" = true)

theorem isPlain_sized {base unlimited : String} (plain : isPlain base = true)
    (plainUnlimited : isPlain unlimited = true) (limit : Option Nat) :
    isPlain (sized base limit unlimited) = true := by
  cases limit with
  | none => exact plainUnlimited
  | some limit =>
    have opened := isPlain_append plain (by decide : isPlain "(" = true)
    exact isPlain_append (isPlain_append opened (isPlain_toString limit)) (by decide)

theorem isPlain_scaled {base : String} (plain : isPlain base = true) (precision scale : Nat) :
    isPlain (scaled base precision scale) = true := by
  have opened := isPlain_append plain (by decide : isPlain "(" = true)
  have first := isPlain_append opened (isPlain_toString precision)
  have comma := isPlain_append first (by decide : isPlain "," = true)
  exact isPlain_append (isPlain_append comma (isPlain_toString scale)) (by decide)

/-- No dialect names a type with a quote or a bracket. -/
theorem isPlain_nativeType (kind : DialectKind) (type : ScalarType) :
    ∀ name ∈ kind.dialect.nativeType type, isPlain name = true := by
  cases type
  case decimal precision scale =>
    cases kind <;> rintro _ ⟨⟩ <;>
      first
      | decide
      | exact isPlain_scaled (by decide) precision scale
  case string limit | binary limit =>
    cases kind <;> rintro _ ⟨⟩ <;>
      first
      | decide
      | exact isPlain_sized (by decide) (by decide) limit
  case other => cases kind <;> rintro _ ⟨⟩
  all_goals cases kind <;> rintro _ ⟨⟩ <;> decide

theorem isPlain_typeOr (kind : DialectKind) (type : ScalarType) {other : String}
    (plain : isPlain other = true) :
    isPlain ((kind.dialect.nativeType type).getD other) = true := by
  cases native : kind.dialect.nativeType type with
  | none => exact plain
  | some name => exact isPlain_nativeType kind type name native

theorem isPlain_serialType (type : ScalarType) : isPlain (Dialect.serialType type) = true := by
  unfold Dialect.serialType
  split <;> decide

/-- What stands behind the name in the definition of a generated key. -/
def DialectKind.keyRule : DialectKind → ScalarType → String
  | ansi, type => Dialect.ansiKey type
  | postgres, type => Dialect.postgresKey type
  | mySql, type => Dialect.mySqlKey type
  | sqlite, _ => Dialect.sqliteKey
  | sqlServer, type => Dialect.sqlServerKey type

theorem generatedKey_builtIn (kind : DialectKind) (name : String) (type : ScalarType) :
    kind.dialect.generatedKey name type
      = kind.dialect.quote name ++ " " ++ kind.keyRule type := by
  cases kind <;> rfl

theorem isPlain_keyRule (kind : DialectKind) (type : ScalarType) :
    isPlain (kind.keyRule type) = true := by
  cases kind
  case ansi => exact isPlain_append (isPlain_typeOr .ansi type (by decide)) (by decide)
  case mySql => exact isPlain_append (isPlain_typeOr .mySql type (by decide)) (by decide)
  case sqlServer =>
    exact isPlain_append (isPlain_typeOr .sqlServer type (by decide)) (by decide)
  case postgres => exact isPlain_append (isPlain_serialType type) (by decide)
  case sqlite => exact (by decide : isPlain Dialect.sqliteKey = true)

end Plain

/-! ### Names of statements -/

/-- The scan that takes down names. -/
def Dialect.nameScan (d : Dialect) : Scan String where
  Found := Option (List String)
  read := namesFrom d.quoting
  before names found := found.map (names ++ ·)
  Parted rest := rest.head? ≠ some d.quoting.closing

/-- Names are set apart by characters that plain text does not have, and not as literals are. -/
structure Quoting.Marked (q : Quoting) : Prop where
  opening : q.opening ∈ marks
  closing : q.closing ∈ marks
  apart : q.opening ≠ literal.opening

theorem marked_builtIn (kind : DialectKind) : kind.dialect.quoting.Marked := by
  refine ⟨?_, ?_, ?_⟩ <;> cases kind <;> decide

section Scanning

variable {d : Dialect} {q : Quoting} {text behind : String} {shown : List String}
  {rest : List Char}

theorem namesFrom_skip {c : Char} (marked : q.Marked) (unmarked : c ∉ marks) :
    namesFrom q (c :: rest) = namesFrom q rest := by
  have unopened : c ≠ q.opening := fun same => unmarked (same ▸ marked.opening)
  have unquoted : c ≠ literal.opening := fun same => unmarked (same ▸ by decide)
  rw [namesFrom, if_neg unopened, if_neg unquoted]

theorem namesFrom_plain (marked : q.Marked) (plain : isPlain text = true) :
    namesFrom q (text.toList ++ rest) = namesFrom q rest := by
  have unmarked := isPlain_iff.1 plain
  generalize text.toList = chars at unmarked ⊢
  induction chars with
  | nil => rfl
  | cons c chars ih =>
    rw [List.cons_append, namesFrom_skip marked (unmarked c (by simp))]
    exact ih fun c mem => unmarked c (by simp [mem])

theorem namesFrom_quote (identifier : String) (ended : rest.head? ≠ some q.closing) :
    namesFrom q ((q.quote identifier).toList ++ rest)
      = (namesFrom q rest).map (identifier :: ·) := by
  have read := q.read?_quote identifier ended
  rw [Quoting.toList_quote, List.cons_append] at read ⊢
  rw [namesFrom, if_pos rfl]
  split
  case h_1 unread => cases read.symm.trans unread
  case h_2 again =>
    cases read.symm.trans again
    rfl

theorem namesFrom_literal (apart : q.opening ≠ literal.opening) (content : String)
    (ended : rest.head? ≠ some literal.closing) :
    namesFrom q ((literal.quote content).toList ++ rest) = namesFrom q rest := by
  have read := literal.read?_quote content ended
  rw [Quoting.toList_quote, List.cons_append] at read ⊢
  rw [namesFrom, if_neg apart.symm, if_pos rfl]
  split
  case h_1 unread => cases read.symm.trans unread
  case h_2 again =>
    cases read.symm.trans again
    rfl

theorem shows_plain (marked : d.quoting.Marked) (plain : isPlain text = true) :
    d.nameScan.Shows text [] := by
  intro rest
  have passed : namesFrom d.quoting (text.toList ++ rest) = namesFrom d.quoting rest :=
    namesFrom_plain marked plain
  simpa [Dialect.nameScan] using passed

theorem passes_plain (marked : d.quoting.Marked) (plain : isPlain text = true)
    (nonempty : text.toList ≠ []) : d.nameScan.Passes text := by
  refine ⟨shows_plain marked plain, fun rest closes => ?_⟩
  obtain ⟨c, tail, begins⟩ := List.exists_cons_of_ne_nil nonempty
  have unmarked : c ∉ marks := isPlain_iff.1 plain c (by simp [begins])
  have same : c = d.quoting.closing := by simpa [begins] using closes
  exact unmarked (same ▸ marked.closing)

/-- A literal is passed over, if it is parted from what stands behind it. -/
theorem shows_literal (marked : d.quoting.Marked) (content : String) (plain : isPlain text = true)
    (nonempty : text.toList ≠ []) : d.nameScan.Shows (literal.quote content ++ text) [] := by
  intro rest
  obtain ⟨c, tail, begins⟩ := List.exists_cons_of_ne_nil nonempty
  have unmarked : c ∉ marks := isPlain_iff.1 plain c (by simp [begins])
  have ended : (text.toList ++ rest).head? ≠ some literal.closing := by
    intro closes
    have same : c = literal.closing := by simpa [begins] using closes
    exact unmarked (same ▸ by decide)
  rw [String.toList_append, List.append_assoc]
  show namesFrom _ _ = _
  rw [namesFrom_literal marked.apart content ended]
  exact shows_plain marked plain rest

theorem showsParted_namesIn (shows : d.nameScan.ShowsParted text shown) :
    d.namesIn text = some shown := by
  have read := shows [] (by simp [Dialect.nameScan])
  simpa [Dialect.namesIn, Dialect.nameScan, namesFrom] using read

/-- The scan finds each name where it stands, and nothing in placeholders. -/
theorem follows_nameScan (kind : DialectKind) :
    kind.dialect.nameScan.Follows kind.dialect (fun name => [name]) fun _ => [] where
  nothing _ := Option.map_id'
  together first later found := by
    have joined (names : List String) := List.append_assoc first later names
    simp only [Dialect.nameScan, joined]
    exact (Option.map_map (first ++ ·) (later ++ ·) found).symm
  words word spelled := by
    have nonempty := (Bool.and_eq_true_iff.1 spelled).1
    exact passes_plain (marked_builtIn kind) (isPlain_words spelled) (by simpa using nonempty)
  name identifier rest ended := by
    have read := namesFrom_quote identifier ended
    simpa [Dialect.nameScan, Dialect.quote] using read
  mark position :=
    (shows_plain (marked_builtIn kind) (isPlain_placeholder kind position)).showsParted

end Scanning

/-! ### Statements that create -/

section Creating

/-- The test for a table has the table's name in one literal and the type of object in another. -/
theorem objectTest_eq (content : List Char) (quoted : String) :
    "IF OBJECT_ID(N'" ++ String.ofList (content.flatMap fun c => if c = '\x27' then [c, c] else [c])
        ++ "', N'U') IS NULL CREATE TABLE " ++ quoted
      = "IF OBJECT_ID(N" ++ (literal.quote (String.ofList content) ++ ", N"
          ++ (literal.quote "U" ++ ") IS NULL CREATE TABLE " ++ quoted)) := by
  apply String.ext
  simp [Quoting.toList_quote, Quoting.doubled, literal]

variable (kind : DialectKind)

theorem showsParted_opening (table : String) :
    kind.dialect.nameScan.ShowsParted
      (kind.dialect.createTableOpening (kind.dialect.quote table)) [table] := by
  have follows := follows_nameScan kind
  have marked := marked_builtIn kind
  rw [Dialect.createTableOpening]
  split
  · exact follows.append (follows.words "CREATE TABLE IF NOT EXISTS " (by decide)).shows
      (follows.name table)
  · rw [objectTest_eq]
    have test := shows_plain marked (by decide : isPlain "IF OBJECT_ID(N" = true)
    have tested := shows_literal marked
      (String.ofList (Dialect.withoutBrackets (kind.dialect.quote table)))
      (by decide : isPlain ", N" = true) (by decide)
    have create := shows_literal marked "U"
      (by decide : isPlain ") IS NULL CREATE TABLE " = true) (by decide)
    exact follows.append test
      (follows.append tested (follows.append create (follows.name table)))

theorem showsParted_columnDefinition (c : Column) :
    kind.dialect.nameScan.ShowsParted
      (kind.dialect.columnDefinition (kind.dialect.columnDef c)) [c.name] := by
  have follows := follows_nameScan kind
  have marked := marked_builtIn kind
  have named := follows.wordsAfter (follows.name c.name) " " (by decide)
  have definition (text : String) (plain : isPlain text = true) :
      kind.dialect.nameScan.ShowsParted (kind.dialect.quote c.name ++ " " ++ text) [c.name] :=
    follows.append named (shows_plain marked plain).showsParted
  rw [Dialect.columnDef]
  split
  · rw [Dialect.columnDefinition, generatedKey_builtIn]
    exact definition _ (isPlain_keyRule kind c.type)
  · have type := isPlain_typeOr kind c.type (by decide : isPlain unknownType = true)
    rw [Dialect.columnDefinition, String.append_assoc]
    refine definition _ (isPlain_append type ?_)
    split <;> decide

theorem showsParted_createTable (table : String) (columns : List Column) (key : Option String) :
    kind.dialect.nameScan.ShowsParted
      (kind.dialect.render (.createTable table (columns.map kind.dialect.columnDef) key))
      ([table] ++ (Dialect.columnNames columns ++ key.toList)) := by
  have follows := follows_nameScan kind
  -- each definition with the name it shows; behind the columns stands the key, if it is declared so
  let definitions : List (String × List String) :=
    columns.map (fun c => (kind.dialect.columnDefinition (kind.dialect.columnDef c), [c.name]))
      ++ (key.map fun k => ("PRIMARY KEY (" ++ kind.dialect.quote k ++ ")", [k])).toList
  have each : ∀ entry ∈ definitions, kind.dialect.nameScan.ShowsParted entry.1 entry.2 := by
    intro entry mem
    rcases List.mem_append.1 mem with column | declared
    · obtain ⟨c, -, rfl⟩ := List.mem_map.1 column
      exact showsParted_columnDefinition kind c
    · obtain ⟨k, -, rfl⟩ := Option.map_eq_some_iff.1 (Option.mem_toList.1 declared)
      have opened := follows.append (follows.words "PRIMARY KEY (" (by decide)).shows
        (follows.name k)
      exact (follows.wordsAfter opened ")" (by decide)).showsParted
  have spelled : definitions.map Prod.fst
      = (columns.map kind.dialect.columnDef).map kind.dialect.columnDefinition
        ++ (key.map fun k => "PRIMARY KEY (" ++ kind.dialect.quote k ++ ")").toList := by
    cases key <;> simp [definitions]
  have shown : definitions.flatMap Prod.snd = Dialect.columnNames columns ++ key.toList := by
    cases key <;> simp [definitions, Dialect.columnNames, List.flatMap_map,
        ← List.map_eq_flatMap]
  have listed := follows.listed definitions Prod.fst Prod.snd each
  rw [spelled, shown] at listed
  have opened := follows.wordsAfter (showsParted_opening kind table) " (" (by decide)
  exact (follows.wordsAfter (follows.append opened listed) ")" (by decide)).showsParted

end Creating

/-! ### The names in each statement -/

namespace Dialect

variable (kind : DialectKind) (m : TableMapping)

/-- Placeholders show no names. -/
theorem flatMap_unmarked (positions : List Nat) :
    positions.flatMap (fun _ => ([] : List String)) = [] := by
  simp

theorem namesIn_createTable :
    kind.dialect.namesIn (kind.dialect.createTable m).sql
      = some (m.table :: columnNames m.columns
        ++ if m.keyColumn.generated then [] else [m.keyColumn.name]) := by
  have shows := showsParted_createTable kind m.table m.columns
    (if m.keyColumn.generated then none else some m.keyColumn.name)
  cases generated : m.keyColumn.generated <;>
    simpa [createTable, statement, generated] using showsParted_namesIn shows

theorem namesIn_createIndexes {statements : List Statement}
    (created : kind.dialect.createIndexes m = .ok statements) :
    statements.map (fun s => kind.dialect.namesIn s.sql) = m.entityType.indexes.map fun index =>
      some (index.name :: m.table :: columnNamesFor m index.fields) := by
  obtain rfl := eq_of_createIndexesFrom_eq_ok created
  rw [List.map_map]
  refine List.map_congr_left fun index _ => ?_
  have shows := (follows_nameScan kind).createIndex index.name m.table
    (columnNamesFor m index.fields) index.unique index.clustered
  simpa [statement] using showsParted_namesIn shows

theorem namesIn_selectKeys {count : Nat} {s : Statement}
    (produced : kind.dialect.selectKeys m count = .ok s) :
    kind.dialect.namesIn s.sql = some (columnNames m.columns ++ [m.table, m.keyColumn.name]) := by
  obtain rfl := eq_of_selectKeys_eq_ok produced
  have shows := (follows_nameScan kind).selectKeys m.table (columnNames m.columns)
    m.keyColumn.name count
  simpa [statement, flatMap_unmarked] using showsParted_namesIn shows

theorem namesIn_selectAll :
    kind.dialect.namesIn (kind.dialect.selectAll m).sql
      = some (columnNames m.columns ++ [m.table, m.keyColumn.name]) := by
  have shows := (follows_nameScan kind).selectAll m.table (columnNames m.columns) m.keyColumn.name
  simpa [selectAll, statement] using showsParted_namesIn shows

theorem namesIn_countRows :
    kind.dialect.namesIn (kind.dialect.countRows m).sql = some [m.table] := by
  have follows := follows_nameScan kind
  have counts := shows_plain (marked_builtIn kind)
    (by decide : isPlain "SELECT COUNT(*) FROM " = true)
  exact showsParted_namesIn (follows.append counts (follows.name m.table))

theorem namesIn_maxKey :
    kind.dialect.namesIn (kind.dialect.maxKey m).sql = some [m.keyColumn.name, m.table] :=
  showsParted_namesIn ((follows_nameScan kind).maxKey m.table m.keyColumn.name)

theorem namesIn_insert :
    kind.dialect.namesIn (kind.dialect.insert m).sql
      = some (m.table :: columnNames m.insertColumns
        ++ if kind.dialect.returnsKey ∧ m.keyColumn.generated then [m.keyColumn.name] else []) := by
  have shows := (follows_nameScan kind).insert m.table (columnNames m.insertColumns) 1
    (generatedKeyOf m)
  have reported : kind.dialect.reportedColumn (generatedKeyOf m)
      = if kind.dialect.returnsKey ∧ m.keyColumn.generated then [m.keyColumn.name] else [] := by
    cases returns : kind.dialect.returnsKey <;> cases generated : m.keyColumn.generated <;>
      simp [reportedColumn, generatedKeyOf, returns, generated]
  rw [reported] at shows
  simpa [insert, statement, flatMap_unmarked] using showsParted_namesIn shows

theorem namesIn_insertMany {rows : Nat} {s : Statement}
    (produced : kind.dialect.insertMany m rows = .ok s) :
    kind.dialect.namesIn s.sql = some (m.table :: columnNames m.insertColumns) := by
  obtain rfl := eq_of_insertMany_eq_ok produced
  have shows := (follows_nameScan kind).insert m.table (columnNames m.insertColumns) rows none
  simpa [statement, reportedColumn, flatMap_unmarked] using showsParted_namesIn shows

theorem namesIn_update {s : Statement} (produced : kind.dialect.update m = some s) :
    kind.dialect.namesIn s.sql
      = some (m.table :: columnNames m.valueColumns ++ [m.keyColumn.name]) := by
  obtain rfl := eq_of_update_eq_some produced
  have shows := (follows_nameScan kind).update m.table (columnNames m.valueColumns)
    m.keyColumn.name
  have assigned : (columnNames m.valueColumns).zipIdx.flatMap (fun entry => [entry.1] ++ [])
      = columnNames m.valueColumns := by
    simp [← List.map_eq_flatMap]
  rw [assigned] at shows
  simpa [statement] using showsParted_namesIn shows

theorem namesIn_deleteKeys {count : Nat} {s : Statement}
    (produced : kind.dialect.deleteKeys m count = .ok s) :
    kind.dialect.namesIn s.sql = some [m.table, m.keyColumn.name] := by
  obtain rfl := eq_of_deleteKeys_eq_ok produced
  have shows := (follows_nameScan kind).deleteKeys m.table m.keyColumn.name count
  simpa [statement, flatMap_unmarked] using showsParted_namesIn shows

theorem namesIn_deleteAll :
    kind.dialect.namesIn (kind.dialect.deleteAll m).sql = some [m.table] :=
  showsParted_namesIn ((follows_nameScan kind).deleteAll m.table)

end Dialect

/-- Quoting cannot be escaped. In every built-in dialect a quoted name is read back as itself,
whatever stands behind it, so that different names are spelled differently; and in every statement
for a table the names that stand in quotes are the declared names of the table, of its columns and
of its indexes, each where the statement has it, and no others. -/
theorem Dialect.names_of_statements (kind : DialectKind) :
    let d := kind.dialect
    (∀ name rest, rest.head? ≠ some d.quoting.closing →
      d.quoting.read? ((d.quote name).toList ++ rest) = some (name, rest)) ∧
    Function.Injective d.quote ∧
    ∀ m : TableMapping,
      d.namesIn (d.createTable m).sql
        = some (m.table :: columnNames m.columns
          ++ if m.keyColumn.generated then [] else [m.keyColumn.name]) ∧
      (∀ statements, d.createIndexes m = .ok statements →
        statements.map (fun s => d.namesIn s.sql) = m.entityType.indexes.map fun index =>
          some (index.name :: m.table :: columnNamesFor m index.fields)) ∧
      (∀ count s, d.selectKeys m count = .ok s →
        d.namesIn s.sql = some (columnNames m.columns ++ [m.table, m.keyColumn.name])) ∧
      d.namesIn (d.selectAll m).sql
        = some (columnNames m.columns ++ [m.table, m.keyColumn.name]) ∧
      d.namesIn (d.countRows m).sql = some [m.table] ∧
      d.namesIn (d.maxKey m).sql = some [m.keyColumn.name, m.table] ∧
      d.namesIn (d.insert m).sql
        = some (m.table :: columnNames m.insertColumns
          ++ if d.returnsKey ∧ m.keyColumn.generated then [m.keyColumn.name] else []) ∧
      (∀ rows s, d.insertMany m rows = .ok s →
        d.namesIn s.sql = some (m.table :: columnNames m.insertColumns)) ∧
      (∀ s, d.update m = some s →
        d.namesIn s.sql = some (m.table :: columnNames m.valueColumns ++ [m.keyColumn.name])) ∧
      (∀ count s, d.deleteKeys m count = .ok s →
        d.namesIn s.sql = some [m.table, m.keyColumn.name]) ∧
      d.namesIn (d.deleteAll m).sql = some [m.table] := by
  refine ⟨fun name rest ended => Quoting.read?_quote name ended,
    kind.dialect.quoting.quote_injective, fun m => ⟨namesIn_createTable kind m,
    fun _ created => namesIn_createIndexes kind m created,
    fun _ _ produced => namesIn_selectKeys kind m produced, namesIn_selectAll kind m,
    namesIn_countRows kind m, namesIn_maxKey kind m, namesIn_insert kind m,
    fun _ _ produced => namesIn_insertMany kind m produced,
    fun _ produced => namesIn_update kind m produced,
    fun _ _ produced => namesIn_deleteKeys kind m produced, namesIn_deleteAll kind m⟩⟩

/-! ### A table with names that try to leave their quotes -/

/-- Each name would end a quoted name or a literal if it were written as it is. -/
def intruder : EntityType where
  name := "Intruder"
  table := "t'] (x); --"
  fields := [⟨"a", "]]", .bigInt, false⟩, ⟨"b", "x] = 1 WHERE [y", .string none, true⟩]
  key := ⟨"a", "]]", .bigInt, false⟩
  assignment := .caller
  indexes := [⟨"]'", ["b", "a"], true, false⟩]
  wellFormed := {
    named := by decide +kernel
    tabled := by decide +kernel
    fields := ⟨by decide +kernel, by decide +kernel, by decide +kernel⟩
    keyDeclared := by decide +kernel
    keyRequired := rfl
    keyType := rfl
    keyInteger := by simp
    indexes := by
      intro index listed
      obtain rfl := List.mem_singleton.1 listed
      exact ⟨by decide +kernel, by decide +kernel, by decide +kernel⟩ }

theorem names_of_intruder :
    Dialect.sqlServer.quoting.read? "[]]]]] = @p1".toList = some ("]]", " = @p1".toList) ∧
    (Dialect.sqlServer.createTable ⟨intruder⟩).sql
      = "IF OBJECT_ID(N't'']] (x); --', N'U') IS NULL CREATE TABLE [t']] (x); --] "
        ++ "([]]]]] BIGINT NOT NULL, [x]] = 1 WHERE [y] NVARCHAR(MAX), PRIMARY KEY ([]]]]]))" ∧
    Dialect.sqlServer.namesIn (Dialect.sqlServer.createTable ⟨intruder⟩).sql
      = some ["t'] (x); --", "]]", "x] = 1 WHERE [y", "]]"] ∧
    (∃ s, Dialect.sqlServer.createIndexes ⟨intruder⟩ = .ok [s] ∧
      s.sql = "CREATE UNIQUE NONCLUSTERED INDEX []]'] ON [t']] (x); --] "
        ++ "([x]] = 1 WHERE [y], []]]]])" ∧
      Dialect.sqlServer.namesIn s.sql = some ["]'", "t'] (x); --", "x] = 1 WHERE [y", "]]"]) ∧
    (∃ s, Dialect.sqlServer.update ⟨intruder⟩ = some s ∧
      s.sql = "UPDATE [t']] (x); --] SET [x]] = 1 WHERE [y] = @p1 WHERE []]]]] = @p2" ∧
      Dialect.sqlServer.namesIn s.sql = some ["t'] (x); --", "x] = 1 WHERE [y", "]]"]) := by
  obtain ⟨name, -, statements⟩ := Dialect.names_of_statements .sqlServer
  obtain ⟨table, indexes, -, -, -, -, -, -, update, -⟩ := statements ⟨intruder⟩
  refine ⟨name "]]" " = @p1".toList (by decide), by decide +kernel, table, ?_, ?_⟩
  · refine ⟨_, rfl, by decide +kernel, ?_⟩
    exact List.singleton_inj.1 (indexes _ rfl)
  · exact ⟨_, rfl, by decide +kernel, update _ rfl⟩

end IdentityMap.Sql
