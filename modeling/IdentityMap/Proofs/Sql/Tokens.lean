import IdentityMap.Proofs.Sql.Spelling
import IdentityMap.Sql.CommandText
/-!
# The tokens of commands

In the spelling with double quotes and question marks the text of a command is scanned into its
tokens (`Dialect.Plainspoken.scan_render`). Texts are put together from parts, and so are their
tokens: a part shows its tokens whatever stands behind it, unless that doubles its last quote or
goes on with its last word (`Scan.ShowsParted`).
-/

namespace IdentityMap.Sql

/-! ### Scanning on -/

namespace Token

/-- The tokens that a character completes, and the progress behind it. -/
def step : Progress → Char → List Token × Progress
  | .name chars, c => ([], if c = '"' then .closing chars else .name (c :: chars))
  | .closing chars, c =>
    if c = '"' then ([], .name (c :: chars))
    else (.name (collected chars) :: (start c).1, (start c).2)
  | .word letters, c =>
    if c.isAlpha then ([], .word (c :: letters))
    else (.word (collected letters) :: (start c).1, (start c).2)
  | .nothing, c => start c

/-- The tokens that a text completes, and the progress behind it. -/
def through : Progress → List Char → List Token × Progress
  | p, [] => ([], p)
  | p, c :: rest => ((step p c).1 ++ (through (step p c).2 rest).1, (through (step p c).2 rest).2)

variable {p : Progress} {c : Char} {chars rest : List Char} {tokens : List Token}

theorem map_append_map (first later : List Token) (found : Option (List Token)) :
    (found.map (later ++ ·)).map (first ++ ·) = found.map ((first ++ later) ++ ·) := by
  rw [Option.map_map]
  congr 1
  funext tokens
  exact (List.append_assoc ..).symm

theorem scanFrom_cons (p : Progress) (c : Char) (rest : List Char) :
    scanFrom p (c :: rest) = (scanFrom (step p c).2 rest).map ((step p c).1 ++ ·) := by
  cases p <;> simp only [scanFrom, step]
  case word letters => split <;> simp
  case name chars => split <;> simp
  case closing chars => split <;> simp

theorem scanFrom_append (p : Progress) (chars rest : List Char) :
    scanFrom p (chars ++ rest)
      = (scanFrom (through p chars).2 rest).map ((through p chars).1 ++ ·) := by
  induction chars generalizing p with
  | nil => simp [through]
  | cons c chars ih => rw [List.cons_append, scanFrom_cons, ih, map_append_map, through]

/-- A text that neither doubles a quote nor goes on with a word leaves the tokens before it as they
are. -/
theorem scanFrom_settled (settled : p.finish = some tokens)
    (parted : ∀ c ∈ rest.head?, c ≠ '"' ∧ c.isAlpha = false) :
    scanFrom p rest = (scanFrom .nothing rest).map (tokens ++ ·) := by
  cases rest with
  | nil =>
    rw [scanFrom, settled]
    simp [scanFrom, Progress.finish]
  | cons c rest =>
    obtain ⟨unquoted, unlettered⟩ := parted c rfl
    rw [scanFrom_cons, scanFrom_cons .nothing, map_append_map]
    cases p with
    | nothing =>
      cases settled
      simp [step]
    | word letters =>
      cases settled
      simp [step, unlettered]
    | name chars => cases settled
    | closing chars =>
      cases settled
      simp [step, unquoted]

end Token

/-! ### The tokens of texts -/

open Token (through)

/-- The scan that takes down tokens. -/
def tokenScan : Scan Token where
  Found := Option (List Token)
  read := Token.scanFrom .nothing
  before tokens found := found.map (tokens ++ ·)
  Parted rest := ∀ c ∈ rest.head?, c ≠ '"' ∧ c.isAlpha = false

theorem tokenScan_joins : tokenScan.Joins where
  nothing _ := Option.map_id'
  together first later found := (Token.map_append_map first later found).symm

section Texts

variable {text behind : String} {tokens more : List Token}

/-- A text shows the tokens that it is scanned into by itself. -/
theorem showsParted_scan (scanned : Token.scan text = some tokens) :
    tokenScan.ShowsParted text tokens := by
  intro rest parted
  have alone := Token.scanFrom_append .nothing text.toList []
  rw [List.append_nil] at alone
  have ended : ((through .nothing text.toList).2.finish).map
      ((through .nothing text.toList).1 ++ ·) = some tokens := by
    rw [← scanned, Token.scan, alone]
    simp [Token.scanFrom]
  obtain ⟨last, finished, rfl⟩ := Option.map_eq_some_iff.1 ended
  show Token.scanFrom .nothing (text.toList ++ rest) = (Token.scanFrom .nothing rest).map _
  rw [Token.scanFrom_append, Token.scanFrom_settled finished parted, Token.map_append_map]

/-- A text that ends with a blank or a mark shows its tokens before any other text. -/
theorem shows_through (passed : through .nothing text.toList = (tokens, .nothing)) :
    tokenScan.Shows text tokens := by
  intro rest
  show Token.scanFrom .nothing (text.toList ++ rest) = (Token.scanFrom .nothing rest).map _
  rw [Token.scanFrom_append, passed]

/-- A text that begins with a blank or a mark. -/
def isParting (text : String) : Bool := text.toList.head?.any fun c => c ≠ '"' && !c.isAlpha

theorem parted_of_isParting (parting : isParting text = true) (rest : List Char) :
    tokenScan.Parted (text.toList ++ rest) := by
  cases begins : text.toList with
  | nil => simp [isParting, begins] at parting
  | cons c chars =>
    rintro d ⟨⟩
    simpa [isParting, begins] using parting

/-- Words behind a name, and before another one. -/
theorem between (shows : tokenScan.ShowsParted text tokens) (behind : String) (more : List Token)
    (parting : isParting behind = true)
    (passed : through .nothing behind.toList = (more, .nothing)) :
    tokenScan.Shows (text ++ behind) (tokens ++ more) :=
  tokenScan_joins.after shows (parted_of_isParting parting) (shows_through passed)

/-- Words behind a name, at the end. -/
theorem ending (shows : tokenScan.ShowsParted text tokens) (behind : String) (more : List Token)
    (parting : isParting behind = true) (scanned : Token.scan behind = some more) :
    tokenScan.ShowsParted (text ++ behind) (tokens ++ more) := by
  intro rest parted
  rw [String.toList_append, List.append_assoc, shows _ (parted_of_isParting parting rest),
    showsParted_scan scanned rest parted, tokenScan_joins.together]

/-- Words in front of a name. -/
theorem naming (front : String) (first : List Token)
    (passed : through .nothing front.toList = (first, .nothing))
    (shows : tokenScan.ShowsParted text tokens) :
    tokenScan.ShowsParted (front ++ text) (first ++ tokens) :=
  tokenScan_joins.append (shows_through passed) shows

theorem closing (shows : tokenScan.ShowsParted text tokens) :
    tokenScan.ShowsParted (text ++ ")") (tokens ++ [.mark ')']) :=
  ending shows ")" _ (by decide) (by decide +kernel)

end Texts

/-! ### Names and letters -/

section Words

theorem scanFrom_closing_of_quoted (chars front rest : List Char) :
    Token.scanFrom (.name front)
        (chars.flatMap (fun c => if c = '"' then [c, c] else [c]) ++ '"' :: rest)
      = Token.scanFrom (.closing (chars.reverse ++ front)) rest := by
  induction chars generalizing front with
  | nil => simp [Token.scanFrom]
  | cons c chars ih =>
    by_cases quote : c = '"' <;> simp [quote, Token.scanFrom, ih]

theorem showsParted_quoted (name : String) :
    tokenScan.ShowsParted (Quoting.double.quote name) [.name name] := by
  have spelled : (Quoting.double.quote name).toList
      = '"' :: (name.toList.flatMap (fun c => if c = '"' then [c, c] else [c]) ++ ['"']) :=
    String.toList_ofList
  refine showsParted_scan ?_
  rw [Token.scan, spelled, Token.scanFrom_cons]
  show (Token.scanFrom (.name []) _).map _ = _
  rw [scanFrom_closing_of_quoted]
  simp [Token.scanFrom, Token.step, Token.start, Token.Progress.finish, Token.collected]

/-- A word of letters. -/
def isLetters (text : String) : Bool := !text.toList.isEmpty && text.toList.all Char.isAlpha

theorem scanFrom_letters {chars : List Char} (letters : chars.all Char.isAlpha = true)
    (front : List Char) :
    Token.scanFrom (.word front) chars
      = some [.word (Token.collected (chars.reverse ++ front))] := by
  induction chars generalizing front with
  | nil => rfl
  | cons c chars ih =>
    obtain ⟨letter, letters⟩ : c.isAlpha = true ∧ chars.all Char.isAlpha = true := by
      simpa using letters
    rw [Token.scanFrom, if_pos letter, ih letters]
    simp

theorem showsParted_letters {text : String} (letters : isLetters text = true) :
    tokenScan.ShowsParted text [.word text] := by
  refine showsParted_scan ?_
  obtain ⟨some, letters⟩ : text.toList ≠ [] ∧ text.toList.all Char.isAlpha = true := by
    simpa [isLetters] using letters
  obtain ⟨c, chars, begins⟩ := List.exists_cons_of_ne_nil some
  have spelled : text = String.ofList (c :: chars) := by rw [← begins, String.ofList_toList]
  rw [begins] at letters
  obtain ⟨letter, later⟩ : c.isAlpha = true ∧ chars.all Char.isAlpha = true := by
    simpa using letters
  have unquoted : c ≠ '"' := by
    rintro rfl
    cases letter
  have scanned := scanFrom_letters later [c]
  rw [spelled]
  simp [Token.scan, Token.scanFrom, Token.start, unquoted, letter, scanned, Token.collected]

end Words

/-! ### The tokens of commands -/

/-- Parts with commas between them. -/
def commas (parts : List (List Token)) : List Token := [Token.mark ','].intercalate parts

/-- The tokens of a column's definition. A generated key is an integer that counts by itself. -/
def ColumnDef.tokens : ColumnDef → List Token
  | .plain name type required =>
    .name name :: .word type :: if required then [.word "NOT", .word "NULL"] else []
  | .generatedKey name _ =>
    [.name name, .word "INTEGER", .word "PRIMARY", .word "KEY", .word "AUTOINCREMENT"]

namespace Command

def nameTokens (names : List String) : List Token := commas (names.map fun name => [.name name])

def placeholderTokens (count : Nat) : List Token := commas (List.replicate count [.mark '?'])

def groupTokens (width : Nat) : List Token := .mark '(' :: (placeholderTokens width ++ [.mark ')'])

def assignmentTokens (column : String) : List Token := [.name column, .mark '=', .mark '?']

def conditionTokens (key : String) (count : Nat) : List Token :=
  if count = 1 then assignmentTokens key else .name key :: .word "IN" :: groupTokens count

def clauseTokens (key : String) : List Token :=
  [.word "PRIMARY", .word "KEY", .mark '(', .name key, .mark ')']

def definitionTokens (columns : List ColumnDef) (key : Option String) : List Token :=
  commas (columns.map ColumnDef.tokens ++ (key.map clauseTokens).toList)

def rowTokens (columns : List String) (rows : Nat) : List Token :=
  if columns = [] then [.word "DEFAULT", .word "VALUES"]
  else
    .mark '(' :: (nameTokens columns ++ .mark ')' :: .word "VALUES"
      :: commas (List.replicate rows (groupTokens columns.length)))

def kindTokens (unique : Bool) : List Token := if unique then [.word "UNIQUE"] else []

def tokens : Command → List Token
  | createTable table columns key =>
    .word "CREATE" :: .word "TABLE" :: .word "IF" :: .word "NOT" :: .word "EXISTS" :: .name table
      :: .mark '(' :: (definitionTokens columns key ++ [.mark ')'])
  | createIndex name table columns unique _ =>
    .word "CREATE" :: (kindTokens unique ++ .word "INDEX" :: .name name :: .word "ON"
      :: .name table :: .mark '(' :: (nameTokens columns ++ [.mark ')']))
  | insert table columns rows _ =>
    .word "INSERT" :: .word "INTO" :: .name table :: rowTokens columns rows
  | selectKeys table columns key count =>
    .word "SELECT" :: (nameTokens columns ++ .word "FROM" :: .name table :: .word "WHERE"
      :: conditionTokens key count)
  | selectAll table columns key =>
    .word "SELECT" :: (nameTokens columns ++ [.word "FROM", .name table, .word "ORDER",
      .word "BY", .name key])
  | countRows table =>
    [.word "SELECT", .word "COUNT", .mark '(', .mark '*', .mark ')', .word "FROM", .name table]
  | maxKey table key =>
    [.word "SELECT", .word "MAX", .mark '(', .name key, .mark ')', .word "FROM", .name table]
  | update table columns key =>
    .word "UPDATE" :: .name table :: .word "SET" :: (commas (columns.map assignmentTokens)
      ++ .word "WHERE" :: assignmentTokens key)
  | deleteKeys table key count =>
    .word "DELETE" :: .word "FROM" :: .name table :: .word "WHERE" :: conditionTokens key count
  | deleteAll table => [.word "DELETE", .word "FROM", .name table]

end Command

/-- The dialect has the spelling that commands are read in. -/
structure Dialect.Plainspoken (d : Dialect) : Prop where
  quoting : d.quoting = .double
  placeholder : d.placeholder = .question
  tableGuard : d.tableGuard = .ifNotExists
  emptyInsert : d.emptyInsert = .defaultValues
  clusteredIndexes : d.clusteredIndexes = false
  returnsKey : d.returnsKey = false

/-- The type of a column is a word of letters, and a generated key is an integer. -/
def ColumnDef.Legible : ColumnDef → Prop
  | .plain _ type _ => isLetters type = true
  | .generatedKey name definition =>
    definition = Quoting.double.quote name ++ " INTEGER PRIMARY KEY AUTOINCREMENT"

namespace Dialect.Plainspoken

variable {d : Dialect} {text : String} {shown : List Token}

theorem name (plain : d.Plainspoken) (name : String) :
    tokenScan.ShowsParted (d.quote name) [.name name] := by
  rw [quote, plain.quoting]
  exact showsParted_quoted name

theorem listed {β : Type} (xs : List β) (part : β → String) (shown : β → List Token)
    (each : ∀ x ∈ xs, tokenScan.ShowsParted (part x) (shown x)) :
    tokenScan.ShowsParted (Text.listed (xs.map part)) (commas (xs.map shown)) :=
  tokenScan_joins.listed [.mark ','] xs part shown
    (fun _ _ shows => between shows ", " [.mark ','] (by decide) (by decide +kernel)) each

theorem names (plain : d.Plainspoken) (names : List String) :
    tokenScan.ShowsParted (d.quoteAll names) (Command.nameTokens names) :=
  listed names d.quote _ fun name _ => plain.name name

theorem mark (plain : d.Plainspoken) (position : Nat) :
    tokenScan.ShowsParted (d.placeholder.text position) [.mark '?'] := by
  rw [plain.placeholder]
  show tokenScan.ShowsParted "?" _
  exact showsParted_scan rfl

theorem placeholders (plain : d.Plainspoken) (position count : Nat) :
    tokenScan.ShowsParted (d.placeholders position count) (Command.placeholderTokens count) := by
  have marks := listed (List.range' position count) d.placeholder.text (fun _ => [.mark '?'])
    fun i _ => plain.mark i
  rwa [List.map_const', List.length_range'] at marks

theorem group (plain : d.Plainspoken) (position width : Nat) :
    tokenScan.ShowsParted ("(" ++ d.placeholders position width ++ ")")
      (Command.groupTokens width) :=
  closing (naming "(" [.mark '('] (by decide) (plain.placeholders position width))

theorem assignment (plain : d.Plainspoken) (column : String) (position : Nat) :
    tokenScan.ShowsParted (d.assignment column position) (Command.assignmentTokens column) :=
  tokenScan_joins.append (between (plain.name column) " = " [.mark '='] (by decide) (by decide))
    (plain.mark position)

theorem condition (plain : d.Plainspoken) (key : String) (count : Nat) :
    tokenScan.ShowsParted (d.keyCondition key count) (Command.conditionTokens key count) := by
  rw [keyCondition, Command.conditionTokens]
  split
  · exact plain.assignment key 1
  · have opened := between (plain.name key) " IN (" [.word "IN", .mark '('] (by decide)
      (by decide +kernel)
    have inner := tokenScan_joins.append opened (plain.placeholders 1 count)
    simpa [Command.groupTokens] using closing inner

theorem groups (plain : d.Plainspoken) (width rows : Nat) :
    tokenScan.ShowsParted (d.rowGroups width rows)
      (commas (List.replicate rows (Command.groupTokens width))) := by
  have all := listed (List.range rows)
    (fun r => "(" ++ d.placeholders (r * width + 1) width ++ ")")
    (fun _ => Command.groupTokens width) fun r _ => plain.group (r * width + 1) width
  rwa [List.map_const', List.length_range] at all

theorem columnDefinition (plain : d.Plainspoken) {c : ColumnDef} (legible : c.Legible) :
    tokenScan.ShowsParted (d.columnDefinition c) c.tokens := by
  cases c with
  | plain name type required =>
    have typed := tokenScan_joins.append
      (between (plain.name name) " " [] (by decide) (by decide)) (showsParted_letters legible)
    cases required with
    | false => simpa [Dialect.columnDefinition, ColumnDef.tokens] using typed
    | true =>
      simpa [Dialect.columnDefinition, ColumnDef.tokens] using
        ending typed " NOT NULL" [.word "NOT", .word "NULL"] (by decide) (by decide +kernel)
  | generatedKey name definition =>
    rw [Dialect.columnDefinition, show definition = _ from legible]
    exact ending (showsParted_quoted name) " INTEGER PRIMARY KEY AUTOINCREMENT"
      [.word "INTEGER", .word "PRIMARY", .word "KEY", .word "AUTOINCREMENT"] (by decide)
      (by decide +kernel)

/-! ### The text of commands -/

theorem tableDefinition (plain : d.Plainspoken) {columns : List ColumnDef} (key : Option String)
    (legible : ∀ c ∈ columns, c.Legible) :
    tokenScan.ShowsParted (d.tableDefinition columns key)
      (Command.definitionTokens columns key) := by
  -- each definition with its tokens; behind the columns stands the key, if it is declared so
  let definitions : List (String × List Token) :=
    columns.map (fun c => (d.columnDefinition c, c.tokens))
      ++ (key.map fun key => ("PRIMARY KEY (" ++ d.quote key ++ ")",
        Command.clauseTokens key)).toList
  have each : ∀ entry ∈ definitions, tokenScan.ShowsParted entry.1 entry.2 := by
    intro entry member
    rcases List.mem_append.1 member with column | declared
    · obtain ⟨c, listed, rfl⟩ := List.mem_map.1 column
      exact plain.columnDefinition (legible c listed)
    · obtain ⟨k, -, rfl⟩ := by simpa using declared
      exact closing (naming "PRIMARY KEY (" [.word "PRIMARY", .word "KEY", .mark '(']
        (by decide +kernel) (plain.name k))
  have all := listed definitions Prod.fst Prod.snd each
  cases key <;>
    simpa [definitions, Dialect.tableDefinition, Command.definitionTokens, Function.comp_def]
      using all

theorem createTable (plain : d.Plainspoken) (table : String) {columns : List ColumnDef}
    (key : Option String) (legible : ∀ c ∈ columns, c.Legible) :
    tokenScan.ShowsParted (d.render (.createTable table columns key))
      (Command.createTable table columns key).tokens := by
  have opened := naming "CREATE TABLE IF NOT EXISTS "
    [.word "CREATE", .word "TABLE", .word "IF", .word "NOT", .word "EXISTS"] (by decide +kernel)
    (plain.name table)
  have inner := tokenScan_joins.append
    (between opened " (" [.mark '('] (by decide) (by decide +kernel))
    (plain.tableDefinition key legible)
  unfold Dialect.render Dialect.createTableOpening Command.tokens
  simpa [plain.tableGuard] using closing inner

theorem createIndex (plain : d.Plainspoken) (name table : String) (columns : List String)
    (unique clustered : Bool) :
    tokenScan.ShowsParted (d.render (.createIndex name table columns unique clustered))
      (Command.createIndex name table columns unique clustered).tokens := by
  have opening : tokenScan.Shows ("CREATE " ++ d.indexKinds unique clustered ++ "INDEX ")
      ([.word "CREATE"] ++ Command.kindTokens unique ++ [.word "INDEX"]) := by
    simp only [indexKinds, plain.clusteredIndexes, Bool.false_eq_true, if_false]
    cases unique <;> exact shows_through (by decide +kernel)
  have on := between (tokenScan_joins.append opening (plain.name name)) " ON " [.word "ON"]
    (by decide) (by decide +kernel)
  have opened := between (tokenScan_joins.append on (plain.name table)) " (" [.mark '(']
    (by decide) (by decide +kernel)
  unfold Dialect.render Command.tokens
  simpa using closing (tokenScan_joins.append opened (plain.names columns))

theorem insert (plain : d.Plainspoken) (table : String) (columns : List String) (rows : Nat)
    (generated : Option String) :
    tokenScan.ShowsParted (d.render (.insert table columns rows generated))
      (Command.insert table columns rows generated).tokens := by
  have unreported : (generated.bind fun key => d.returningClause (d.quote key)).getD "" = "" := by
    cases generated <;> simp [returningClause, plain.returnsKey]
  have into := naming "INSERT INTO " [.word "INSERT", .word "INTO"] (by decide +kernel)
    (plain.name table)
  unfold Dialect.render Command.tokens Command.rowTokens
  dsimp only
  rw [unreported, String.append_empty]
  split
  · rw [insertDefaults, plain.emptyInsert]
    exact ending into " DEFAULT VALUES" [.word "DEFAULT", .word "VALUES"] (by decide)
      (by decide +kernel)
  · have opened := between into " (" [.mark '('] (by decide) (by decide +kernel)
    have named := tokenScan_joins.append opened (plain.names columns)
    have closed := between named ") VALUES " [.mark ')', .word "VALUES"] (by decide)
      (by decide +kernel)
    simpa [String.append_assoc] using
      tokenScan_joins.append closed (plain.groups columns.length rows)

theorem selection (plain : d.Plainspoken) (table : String) (columns : List String) :
    tokenScan.ShowsParted ("SELECT " ++ d.quoteAll columns ++ " FROM " ++ d.quote table)
      (.word "SELECT" :: (Command.nameTokens columns ++ [.word "FROM", .name table])) := by
  have verb := naming "SELECT " [.word "SELECT"] (by decide +kernel) (plain.names columns)
  have source := between verb " FROM " [.word "FROM"] (by decide) (by decide +kernel)
  simpa using tokenScan_joins.append source (plain.name table)

theorem selectKeys (plain : d.Plainspoken) (table : String) (columns : List String) (key : String)
    (count : Nat) :
    tokenScan.ShowsParted (d.render (.selectKeys table columns key count))
      (Command.selectKeys table columns key count).tokens := by
  have condition := between (plain.selection table columns) " WHERE " [.word "WHERE"] (by decide)
    (by decide +kernel)
  unfold Dialect.render Command.tokens
  simpa [String.append_assoc] using tokenScan_joins.append condition (plain.condition key count)

theorem selectAll (plain : d.Plainspoken) (table : String) (columns : List String) (key : String) :
    tokenScan.ShowsParted (d.render (.selectAll table columns key))
      (Command.selectAll table columns key).tokens := by
  have order := between (plain.selection table columns) " ORDER BY " [.word "ORDER", .word "BY"]
    (by decide) (by decide +kernel)
  unfold Dialect.render Command.tokens
  simpa [String.append_assoc] using tokenScan_joins.append order (plain.name key)

theorem countRows (plain : d.Plainspoken) (table : String) :
    tokenScan.ShowsParted (d.render (.countRows table)) (Command.countRows table).tokens :=
  naming "SELECT COUNT(*) FROM "
    [.word "SELECT", .word "COUNT", .mark '(', .mark '*', .mark ')', .word "FROM"]
    (by decide +kernel) (plain.name table)

theorem maxKey (plain : d.Plainspoken) (table key : String) :
    tokenScan.ShowsParted (d.render (.maxKey table key)) (Command.maxKey table key).tokens := by
  have largest := naming "SELECT MAX(" [.word "SELECT", .word "MAX", .mark '('] (by decide +kernel)
    (plain.name key)
  exact tokenScan_joins.append
    (between largest ") FROM " [.mark ')', .word "FROM"] (by decide) (by decide +kernel))
    (plain.name table)

theorem update (plain : d.Plainspoken) (table : String) (columns : List String) (key : String) :
    tokenScan.ShowsParted (d.render (.update table columns key))
      (Command.update table columns key).tokens := by
  have updated := naming "UPDATE " [.word "UPDATE"] (by decide +kernel) (plain.name table)
  have set := between updated " SET " [.word "SET"] (by decide) (by decide +kernel)
  have assigned := listed columns.zipIdx (fun entry => d.assignment entry.1 (entry.2 + 1))
    (fun entry => Command.assignmentTokens entry.1) fun entry _ =>
      plain.assignment entry.1 (entry.2 + 1)
  have named : columns.zipIdx.map (fun entry => Command.assignmentTokens entry.1)
      = columns.map Command.assignmentTokens := by
    rw [← Function.comp_def, ← List.map_map, List.zipIdx_map_fst]
  rw [named] at assigned
  have condition := between (tokenScan_joins.append set assigned) " WHERE " [.word "WHERE"]
    (by decide) (by decide +kernel)
  unfold Dialect.render Command.tokens
  dsimp only
  rw [List.mapIdx_eq_zipIdx_map]
  simpa using tokenScan_joins.append condition (plain.assignment key (columns.length + 1))

theorem deletion (plain : d.Plainspoken) (table : String) :
    tokenScan.ShowsParted ("DELETE FROM " ++ d.quote table)
      [.word "DELETE", .word "FROM", .name table] :=
  naming "DELETE FROM " [.word "DELETE", .word "FROM"] (by decide +kernel) (plain.name table)

theorem deleteKeys (plain : d.Plainspoken) (table key : String) (count : Nat) :
    tokenScan.ShowsParted (d.render (.deleteKeys table key count))
      (Command.deleteKeys table key count).tokens := by
  have condition := between (plain.deletion table) " WHERE " [.word "WHERE"] (by decide)
    (by decide +kernel)
  exact tokenScan_joins.append condition (plain.condition key count)

end Dialect.Plainspoken

/-- What is written of the command can be read: no list is empty, and columns have legible types. -/
def Command.Legible : Command → Prop
  | createTable _ columns key => (∀ c ∈ columns, c.Legible) ∧ (columns ≠ [] ∨ key ≠ none)
  | createIndex _ _ columns _ clustered => columns ≠ [] ∧ clustered = false
  | insert _ columns rows _ => if columns = [] then rows = 1 else 0 < rows
  | selectKeys _ columns _ count => columns ≠ [] ∧ 0 < count
  | selectAll _ columns _ => columns ≠ []
  | update _ columns _ => columns ≠ []
  | deleteKeys _ _ count => 0 < count
  | _ => True

namespace Dialect.Plainspoken

variable {d : Dialect}

/-- A command is written in its tokens. -/
theorem render (plain : d.Plainspoken) {c : Command} (legible : c.Legible) :
    tokenScan.ShowsParted (d.render c) c.tokens := by
  cases c with
  | createTable table columns key => exact plain.createTable table key legible.1
  | createIndex name table columns unique clustered =>
    exact plain.createIndex name table columns unique clustered
  | insert table columns rows generated => exact plain.insert table columns rows generated
  | selectKeys table columns key count => exact plain.selectKeys table columns key count
  | selectAll table columns key => exact plain.selectAll table columns key
  | countRows table => exact plain.countRows table
  | maxKey table key => exact plain.maxKey table key
  | update table columns key => exact plain.update table columns key
  | deleteKeys table key count => exact plain.deleteKeys table key count
  | deleteAll table => exact plain.deletion table

theorem scan_render (plain : d.Plainspoken) {c : Command} (legible : c.Legible) :
    Token.scan (d.render c) = some c.tokens := by
  have shown : Token.scanFrom .nothing ((d.render c).toList ++ []) = some (c.tokens ++ []) :=
    plain.render legible [] nofun
  rwa [List.append_nil, List.append_nil] at shown

end Dialect.Plainspoken

end IdentityMap.Sql
