import IdentityMap.Sql.Statement
/-!
# What a scan finds in a statement

A scan reads a text from left to right and takes down what it comes upon; what it finds in texts
one behind the other adds up (`Scan.Joins`). Of a statement it is often enough to know what it takes
down of a name and of a placeholder, wherever they stand, and that it passes over the words in
between (`Scan.Follows`). What it finds in the statement then follows from the command:
`Scan.Follows.insert`, `Scan.Follows.update` and so on, one lemma for each command.

A text that ends with a word is scanned by itself (`Scan.Shows`); one that ends with a name or a
placeholder needs to be parted from what follows (`Scan.ShowsParted`), since a closing character
might be doubled and a number might go on.
-/

namespace IdentityMap.Sql

/-! ### Words between names and placeholders -/

/-- A character of the words that a statement has between its names and placeholders. -/
def isWordChar (c : Char) : Bool := c.isUpper || c ∈ [' ', '(', ')', ',', '=']

/-- A text of such characters, at least one. -/
def isWords (text : String) : Bool := !text.toList.isEmpty && text.toList.all isWordChar

/-! ### Scans -/

structure Scan (α : Type) where
  Found : Type
  /-- What is found in a text. -/
  read : List Char → Found
  /-- What is found in all, if this much stands in front of it. -/
  before : List α → Found → Found
  /-- A name or a placeholder is complete before this text. -/
  Parted : List Char → Prop

namespace Scan

variable {α : Type} (scan : Scan α)

/-- This is found in the text, whatever stands behind it. -/
def Shows (text : String) (shown : List α) : Prop :=
  ∀ rest, scan.read (text.toList ++ rest) = scan.before shown (scan.read rest)

/-- This is found in the text, if it is parted from what stands behind it. -/
def ShowsParted (text : String) (shown : List α) : Prop :=
  ∀ rest, scan.Parted rest →
    scan.read (text.toList ++ rest) = scan.before shown (scan.read rest)

/-- Nothing is found in the text, and it parts what stands in front of it from all behind it. -/
structure Passes (text : String) : Prop where
  shows : scan.Shows text []
  parts : ∀ rest, scan.Parted (text.toList ++ rest)

/-- What is found adds up. -/
structure Joins : Prop where
  nothing : ∀ found, scan.before [] found = found
  together : ∀ first later found,
    scan.before (first ++ later) found = scan.before first (scan.before later found)

/-- The scan takes down `name` of a quoted name, `mark` of the placeholder at a position, and
nothing of words. -/
structure Follows (d : Dialect) (name : String → List α) (mark : Nat → List α) : Prop
    extends scan.Joins where
  words : ∀ word, isWords word = true → scan.Passes word
  name : ∀ identifier, scan.ShowsParted (d.quote identifier) (name identifier)
  mark : ∀ position, scan.ShowsParted (d.placeholder.text position) (mark position)

variable {scan} {text behind : String} {shown more : List α}

theorem Shows.showsParted (shows : scan.Shows text shown) : scan.ShowsParted text shown :=
  fun rest _ => shows rest

namespace Joins

theorem append (joins : scan.Joins) (shows : scan.Shows text shown)
    (later : scan.ShowsParted behind more) : scan.ShowsParted (text ++ behind) (shown ++ more) := by
  intro rest parted
  rw [String.toList_append, List.append_assoc, shows, later rest parted, joins.together]

/-- A text that parts what stands in front of it is read on its own. -/
theorem after (joins : scan.Joins) (shows : scan.ShowsParted text shown)
    (parts : ∀ rest, scan.Parted (behind.toList ++ rest)) (later : scan.Shows behind more) :
    scan.Shows (text ++ behind) (shown ++ more) := by
  intro rest
  rw [String.toList_append, List.append_assoc, shows _ (parts rest), later, joins.together]

/-- The parts of a list show what each of them shows, with what the commas show in between. -/
theorem listed (joins : scan.Joins) (comma : List α) {β : Type} (xs : List β) (part : β → String)
    (shown : β → List α) (commas : ∀ text shown, scan.ShowsParted text shown →
      scan.Shows (text ++ ", ") (shown ++ comma))
    (each : ∀ x ∈ xs, scan.ShowsParted (part x) (shown x)) :
    scan.ShowsParted (Text.listed (xs.map part)) (comma.intercalate (xs.map shown)) := by
  induction xs with
  | nil =>
    intro rest _
    simp [Text.listed, joins.nothing]
  | cons x rest ih =>
    have first := each x (by simp)
    have others := ih fun y mem => each y (by simp [mem])
    cases rest with
    | nil => simpa [Text.listed] using first
    | cons y rest =>
      have joined := joins.append (commas _ _ first) others
      simpa [Text.listed, String.intercalate_cons_cons] using joined

end Joins

end Scan

/-- Groups of `width` numbers, one after the other, count on. -/
theorem flatMap_range_groups (width rows : Nat) :
    (List.range rows).flatMap (fun r => List.range' (r * width + 1) width)
      = List.range' 1 (rows * width) := by
  induction rows with
  | zero => simp
  | succ rows ih =>
    rw [List.range_succ, List.flatMap_append, ih, Nat.succ_mul, ← List.range'_append_1]
    simp [Nat.add_comm]

/-- The key column that an insert in this dialect reports back. -/
def Dialect.reportedColumn (d : Dialect) (generated : Option String) : List String :=
  if d.returnsKey then generated.toList else []

namespace Scan.Follows

variable {α : Type} {scan : Scan α} {d : Dialect} {name : String → List α} {mark : Nat → List α}
  {text : String} {shown : List α}

/-! ### Texts in a row -/

/-- A word behind a name or a placeholder parts it from everything else. -/
theorem wordsAfter (follows : scan.Follows d name mark) (shows : scan.ShowsParted text shown)
    (word : String) (spelled : isWords word = true) : scan.Shows (text ++ word) shown := by
  have passes := follows.words word spelled
  simpa using follows.after shows passes.parts passes.shows

/-- The parts of a list show what each of them shows. -/
theorem listed (follows : scan.Follows d name mark) {β : Type} (xs : List β) (part : β → String)
    (shown : β → List α) (each : ∀ x ∈ xs, scan.ShowsParted (part x) (shown x)) :
    scan.ShowsParted (Text.listed (xs.map part)) (xs.flatMap shown) := by
  have joined : ([] : List α).intercalate (xs.map shown) = xs.flatMap shown := by
    rw [List.flatMap_def]
    induction xs.map shown with
    | nil => rfl
    | cons first others ih => cases others <;> simp_all
  rw [← joined]
  refine follows.toJoins.listed [] xs part shown (fun text shown shows => ?_) each
  simpa using follows.wordsAfter shows ", " (by decide)

/-! ### Parts of statements -/

theorem quoteAll (follows : scan.Follows d name mark) (names : List String) :
    scan.ShowsParted (d.quoteAll names) (names.flatMap name) :=
  follows.listed names d.quote name fun identifier _ => follows.name identifier

theorem placeholders (follows : scan.Follows d name mark) (position count : Nat) :
    scan.ShowsParted (d.placeholders position count)
      ((List.range' position count).flatMap mark) :=
  follows.listed (List.range' position count) d.placeholder.text mark fun i _ => follows.mark i

theorem assignment (follows : scan.Follows d name mark) (column : String) (position : Nat) :
    scan.ShowsParted (d.assignment column position) (name column ++ mark position) := by
  have equals := follows.wordsAfter (follows.name column) " = " (by decide)
  exact follows.append equals (follows.mark position)

theorem keyCondition (follows : scan.Follows d name mark) (key : String) (count : Nat) :
    scan.ShowsParted (d.keyCondition key count)
      (name key ++ (List.range' 1 count).flatMap mark) := by
  rw [Dialect.keyCondition]
  split
  · subst count
    simpa [Dialect.assignment] using follows.assignment key 1
  · have opened := follows.wordsAfter (follows.name key) " IN (" (by decide)
    have inner := follows.append opened (follows.placeholders 1 count)
    exact (follows.wordsAfter inner ")" (by decide)).showsParted

theorem rowGroups (follows : scan.Follows d name mark) (width rows : Nat) :
    scan.ShowsParted (d.rowGroups width rows) ((List.range' 1 (rows * width)).flatMap mark) := by
  have group (r : Nat) : scan.ShowsParted ("(" ++ d.placeholders (r * width + 1) width ++ ")")
      ((List.range' (r * width + 1) width).flatMap mark) := by
    have bracket := (follows.words "(" (by decide)).shows
    have inner := follows.append bracket (follows.placeholders (r * width + 1) width)
    exact (follows.wordsAfter inner ")" (by decide)).showsParted
  have all := follows.listed (List.range rows) _ _ fun r _ => group r
  rwa [← List.flatMap_assoc, flatMap_range_groups] at all

theorem returning (follows : scan.Follows d name mark) (shows : scan.ShowsParted text shown)
    (generated : Option String) :
    scan.ShowsParted
      (text ++ (generated.bind fun key => d.returningClause (d.quote key)).getD "")
      (shown ++ (d.reportedColumn generated).flatMap name) := by
  cases generated with
  | none => simpa [Dialect.reportedColumn] using shows
  | some key =>
    by_cases returns : d.returnsKey = true
    · have word := follows.wordsAfter shows " RETURNING " (by decide)
      have clause := follows.append word (follows.name key)
      simpa [Dialect.returningClause, Dialect.reportedColumn, returns, String.append_assoc]
        using clause
    · simpa [Dialect.returningClause, Dialect.reportedColumn, returns] using shows

theorem insertDefaults (follows : scan.Follows d name mark) (table : String) :
    scan.ShowsParted (d.insertDefaults (d.quote table)) (name table) := by
  have into := follows.append (follows.words "INSERT INTO " (by decide)).shows (follows.name table)
  rw [Dialect.insertDefaults]
  split
  · exact (follows.wordsAfter into " DEFAULT VALUES" (by decide)).showsParted
  · exact (follows.wordsAfter into " () VALUES ()" (by decide)).showsParted

theorem assignments (follows : scan.Follows d name mark) (columns : List String) :
    scan.ShowsParted
      (Text.listed (columns.mapIdx fun i column => d.assignment column (i + 1)))
      (columns.zipIdx.flatMap fun entry => name entry.1 ++ mark (entry.2 + 1)) := by
  rw [List.mapIdx_eq_zipIdx_map]
  exact follows.listed columns.zipIdx (fun entry => d.assignment entry.1 (entry.2 + 1)) _
    fun entry _ => follows.assignment entry.1 (entry.2 + 1)

/-! ### Statements -/

theorem insert (follows : scan.Follows d name mark) (table : String) (columns : List String)
    (rows : Nat) (generated : Option String) :
    scan.ShowsParted (d.render (.insert table columns rows generated))
      (name table ++ columns.flatMap name
        ++ (List.range' 1 (rows * columns.length)).flatMap mark
        ++ (d.reportedColumn generated).flatMap name) := by
  refine follows.returning ?_ generated
  split
  · subst columns
    simpa using follows.insertDefaults table
  · have verb := (follows.words "INSERT INTO " (by decide)).shows
    have into := follows.append verb (follows.name table)
    have opened := follows.wordsAfter into " (" (by decide)
    have names := follows.append opened (follows.quoteAll columns)
    have values := follows.wordsAfter names ") VALUES " (by decide)
    exact follows.append values (follows.rowGroups columns.length rows)

theorem update (follows : scan.Follows d name mark) (table : String) (columns : List String)
    (key : String) :
    scan.ShowsParted (d.render (.update table columns key))
      (name table ++ columns.zipIdx.flatMap (fun entry => name entry.1 ++ mark (entry.2 + 1))
        ++ (name key ++ mark (columns.length + 1))) := by
  have updated := follows.append (follows.words "UPDATE " (by decide)).shows (follows.name table)
  have set := follows.wordsAfter updated " SET " (by decide)
  have assigned := follows.append set (follows.assignments columns)
  have condition := follows.wordsAfter assigned " WHERE " (by decide)
  exact follows.append condition (follows.assignment key (columns.length + 1))

/-- The opening that both queries for rows have. -/
theorem selection (follows : scan.Follows d name mark) (table : String) (columns : List String) :
    scan.ShowsParted ("SELECT " ++ d.quoteAll columns ++ " FROM " ++ d.quote table)
      (columns.flatMap name ++ name table) := by
  have verb := (follows.words "SELECT " (by decide)).shows
  have selected := follows.append verb (follows.quoteAll columns)
  have source := follows.wordsAfter selected " FROM " (by decide)
  exact follows.append source (follows.name table)

theorem selectKeys (follows : scan.Follows d name mark) (table : String) (columns : List String)
    (key : String) (count : Nat) :
    scan.ShowsParted (d.render (.selectKeys table columns key count))
      (columns.flatMap name ++ name table
        ++ (name key ++ (List.range' 1 count).flatMap mark)) := by
  have condition := follows.wordsAfter (follows.selection table columns) " WHERE " (by decide)
  exact follows.append condition (follows.keyCondition key count)

theorem selectAll (follows : scan.Follows d name mark) (table : String) (columns : List String)
    (key : String) :
    scan.ShowsParted (d.render (.selectAll table columns key))
      (columns.flatMap name ++ name table ++ name key) := by
  have order := follows.wordsAfter (follows.selection table columns) " ORDER BY " (by decide)
  exact follows.append order (follows.name key)

theorem maxKey (follows : scan.Follows d name mark) (table key : String) :
    scan.ShowsParted (d.render (.maxKey table key)) (name key ++ name table) := by
  have largest := follows.append (follows.words "SELECT MAX(" (by decide)).shows (follows.name key)
  have source := follows.wordsAfter largest ") FROM " (by decide)
  exact follows.append source (follows.name table)

theorem deleteAll (follows : scan.Follows d name mark) (table : String) :
    scan.ShowsParted (d.render (.deleteAll table)) (name table) :=
  follows.append (follows.words "DELETE FROM " (by decide)).shows (follows.name table)

theorem deleteKeys (follows : scan.Follows d name mark) (table key : String) (count : Nat) :
    scan.ShowsParted (d.render (.deleteKeys table key count))
      (name table ++ (name key ++ (List.range' 1 count).flatMap mark)) := by
  have condition := follows.wordsAfter (follows.deleteAll table) " WHERE " (by decide)
  exact follows.append condition (follows.keyCondition key count)

theorem createIndex (follows : scan.Follows d name mark) (index table : String)
    (columns : List String) (unique clustered : Bool) :
    scan.ShowsParted (d.render (.createIndex index table columns unique clustered))
      (name index ++ name table ++ columns.flatMap name) := by
  have opening : isWords ("CREATE " ++ d.indexKinds unique clustered ++ "INDEX ") = true := by
    unfold Dialect.indexKinds
    cases unique <;> cases clustered <;> cases d.clusteredIndexes <;> decide
  have named := follows.append (follows.words _ opening).shows (follows.name index)
  have on := follows.wordsAfter named " ON " (by decide)
  have placed := follows.append on (follows.name table)
  have opened := follows.wordsAfter placed " (" (by decide)
  have inner := follows.append opened (follows.quoteAll columns)
  exact (follows.wordsAfter inner ")" (by decide)).showsParted

end Scan.Follows

end IdentityMap.Sql
