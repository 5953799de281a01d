import IdentityMap.Proofs.Sql.Names
import Mathlib.Data.List.Basic
import Mathlib.Data.List.TakeWhile
/-!
# The test for an existing table

One built-in dialect creates a table behind a test for an object with the table's name. The name
stands twice in such a statement, in the literal of the test and in quotes behind it, and
`objectTest?` reads both. The literal is made of the quoted name: brackets are taken off both of its
ends, as many as there are, and what quoting has doubled in between stays doubled. So the test is
about the table that is created exactly if the table's name has no closing bracket and does not
begin with an opening one (`Dialect.objectTest_reads`).
-/

namespace IdentityMap.Sql

/-- How names are set apart in the dialect that tests for objects. -/
def brackets : Quoting := Dialect.sqlServer.quoting

/-! ### Reading a test -/

/-- The name that a statement tests for, the name of the table that it creates if there is none,
and what follows. -/
def objectTest? (statement : List Char) : Option (String × String × List Char) := do
  let rest ← statement.dropPrefix? "IF OBJECT_ID(N".toList
  let (tested, rest) ← literal.read? rest
  let rest ← rest.dropPrefix? ", N'U') IS NULL CREATE TABLE ".toList
  let (created, rest) ← brackets.read? rest
  return (tested, created, rest)

theorem objectTest?_written (content : List Char) (table : String) {rest : List Char}
    (ended : rest.head? ≠ some brackets.closing) :
    objectTest? (("IF OBJECT_ID(N" ++ (literal.quote (String.ofList content)
      ++ (", N'U') IS NULL CREATE TABLE " ++ brackets.quote table))).toList ++ rest)
      = some (String.ofList content, table, rest) := by
  have tested (behind : List Char) : literal.read? ((literal.quote (String.ofList content)).toList
      ++ (", N'U') IS NULL CREATE TABLE ".toList ++ behind))
      = some (String.ofList content, ", N'U') IS NULL CREATE TABLE ".toList ++ behind) :=
    Quoting.read?_quote _ (by simp [literal])
  have created := Quoting.read?_quote table ended
  simp only [String.toList_append, List.append_assoc, objectTest?]
  rw [List.dropPrefix?_append_of_beq _ (by simp), Option.bind_eq_bind, Option.bind_some, tested,
    Option.bind_eq_bind, Option.bind_some]
  dsimp only
  rw [List.dropPrefix?_append_of_beq _ (by simp), Option.bind_some, created]
  rfl

/-! ### Names without their outer brackets -/

/-- What is left of a text when all opening brackets are taken off its front and all closing ones
off its end. -/
structure Stripped (text core : List Char) : Prop where
  spelled : ∃ opened closed, text
    = List.replicate opened brackets.opening ++ core ++ List.replicate closed brackets.closing
  front : core.head? ≠ some brackets.opening
  back : core.getLast? ≠ some brackets.closing

variable {c : Char} {name core rest : List Char}

theorem dropWhile_replicate_append (n : Nat) (other : rest.head? ≠ some c) :
    (List.replicate n c ++ rest).dropWhile (· = c) = rest := by
  rw [List.dropWhile_append_of_pos (by simp)]
  cases rest with
  | nil => rfl
  | cons d rest => exact List.dropWhile_cons_of_neg (by simpa using other)

theorem exists_replicate_append_dropWhile (c : Char) (text : List Char) :
    ∃ n, text = List.replicate n c ++ text.dropWhile (· = c) := by
  have taken : text.takeWhile (· = c) = List.replicate (text.takeWhile (· = c)).length c :=
    List.eq_replicate_of_mem fun _ mem => by simpa using List.mem_takeWhile_imp mem
  exact ⟨_, taken ▸ List.takeWhile_append_dropWhile.symm⟩

theorem head?_dropWhile_ne (c : Char) (text : List Char) :
    (text.dropWhile (· = c)).head? ≠ some c := by
  intro first
  have kept := List.head?_dropWhile_not (· = c) text
  simp [first] at kept

/-! ### Quoted names without their outer brackets -/

namespace Quoting

variable {q : Quoting}

theorem doubled_append (first later : List Char) :
    q.doubled (first ++ later) = q.doubled first ++ q.doubled later :=
  List.flatMap_append

theorem doubled_replicate_closing (n : Nat) :
    q.doubled (List.replicate n q.closing) = List.replicate (2 * n) q.closing := by
  induction n with
  | zero => rfl
  | succ n ih => rw [List.replicate_succ, doubled_closing, ih]; rfl

theorem doubled_of_not_mem (unclosed : q.closing ∉ name) : q.doubled name = name := by
  induction name with
  | nil => rfl
  | cons c name ih =>
    rw [List.mem_cons, not_or] at unclosed
    rw [doubled_cons (Ne.symm unclosed.1), ih unclosed.2]

/-- Doubling makes a name longer by the number of its closing characters. -/
theorem length_doubled (name : List Char) :
    (q.doubled name).length = name.length + name.count q.closing := by
  induction name with
  | nil => rfl
  | cons c name ih =>
    by_cases closes : c = q.closing
    · subst closes
      simp only [doubled_closing, List.length_cons, List.count_cons_self, ih]
      omega
    · simp only [doubled_cons closes, List.length_cons, List.count_cons_of_ne closes, ih]
      omega

theorem head?_doubled (name : List Char) : (q.doubled name).head? = name.head? := by
  cases name with
  | nil => rfl
  | cons c name => by_cases closes : c = q.closing <;> simp [doubled, closes]

theorem getLast?_doubled (name : List Char) : (q.doubled name).getLast? = name.getLast? := by
  rcases List.eq_nil_or_concat' name with rfl | ⟨name, c, rfl⟩
  · rfl
  · rw [doubled_append]
    by_cases closes : c = q.closing <;> simp [doubled, closes]

end Quoting

namespace Stripped

theorem withoutBrackets {text : String} (stripped : Stripped text.toList core) :
    Dialect.withoutBrackets text = core := by
  obtain ⟨⟨opened, closed, spelled⟩, front, back⟩ := stripped
  have behind : (core ++ List.replicate closed brackets.closing).head? ≠ some brackets.opening := by
    cases core with
    | nil =>
      cases closed <;>
        simp [List.replicate_succ, brackets, Dialect.sqlServer, Quoting.brackets]
    | cons => exact front
  have opens := dropWhile_replicate_append opened behind
  rw [← List.head?_reverse] at back
  have closes := dropWhile_replicate_append closed back
  have reversed : (core ++ List.replicate closed brackets.closing).reverse
      = List.replicate closed brackets.closing ++ core.reverse := by simp
  change ((text.toList.dropWhile (· = brackets.opening)).reverse.dropWhile
    (· = brackets.closing)).reverse = core
  rw [spelled, List.append_assoc, opens, reversed, closes, List.reverse_reverse]

theorem of_withoutBrackets (text : String) :
    Stripped text.toList (Dialect.withoutBrackets text) := by
  obtain ⟨opened, opens⟩ := exists_replicate_append_dropWhile brackets.opening text.toList
  obtain ⟨closed, closes⟩ := exists_replicate_append_dropWhile brackets.closing
    (text.toList.dropWhile (· = brackets.opening)).reverse
  have core : text.toList.dropWhile (· = brackets.opening)
      = Dialect.withoutBrackets text ++ List.replicate closed brackets.closing := by
    rw [← List.reverse_reverse (text.toList.dropWhile (· = brackets.opening)), closes,
      List.reverse_append, List.reverse_replicate]
    rfl
  have back : (Dialect.withoutBrackets text).getLast? ≠ some brackets.closing := by
    rw [Dialect.withoutBrackets, List.getLast?_reverse]
    exact head?_dropWhile_ne brackets.closing _
  refine ⟨⟨opened, closed, by rw [List.append_assoc, ← core]; exact opens⟩, fun first => ?_, back⟩
  have kept := head?_dropWhile_ne brackets.opening text.toList
  rw [core] at kept
  rcases List.head?_eq_some_iff.1 first with ⟨behind, spelled⟩
  simp [spelled] at kept

/-- Quoting adds a bracket at both ends, and one to each closing bracket of the name. -/
theorem quote {identifier : String} (stripped : Stripped identifier.toList core) :
    Stripped (brackets.quote identifier).toList (brackets.doubled core) := by
  obtain ⟨⟨opened, closed, spelled⟩, front, back⟩ := stripped
  refine ⟨⟨opened + 1, 2 * closed + 1, ?_⟩, by rwa [Quoting.head?_doubled],
    by rwa [Quoting.getLast?_doubled]⟩
  have opens : brackets.doubled (List.replicate opened brackets.opening)
      = List.replicate opened brackets.opening :=
    Quoting.doubled_of_not_mem (by simp [brackets, Dialect.sqlServer, Quoting.brackets])
  rw [Quoting.toList_quote, spelled, Quoting.doubled_append, Quoting.doubled_append, opens,
    Quoting.doubled_replicate_closing, List.append_assoc _ _ [brackets.closing],
    ← List.replicate_succ', List.replicate_succ]
  rfl

/-- Nothing is taken off a name that has no such bracket at its ends. -/
theorem whole (stripped : Stripped name core) (first : name.head? ≠ some brackets.opening)
    (last : name.getLast? ≠ some brackets.closing) : name = core := by
  obtain ⟨⟨opened, closed, spelled⟩, -, -⟩ := stripped
  cases opened with
  | succ opened => exact absurd (by rw [spelled]; rfl) first
  | zero =>
    cases closed with
    | succ closed =>
      rw [List.replicate_succ', ← List.append_assoc] at spelled
      exact absurd (by rw [spelled, List.getLast?_concat]) last
    | zero => simpa using spelled

/-- What is left, doubled as it is in quotes, is the name itself if there is nothing to strip and
nothing to double. -/
theorem doubled_eq_iff (stripped : Stripped name core) :
    brackets.doubled core = name
      ↔ name.head? ≠ some brackets.opening ∧ brackets.closing ∉ name := by
  constructor
  · intro same
    have first : name.head? ≠ some brackets.opening := by
      rw [← same, Quoting.head?_doubled]
      exact stripped.front
    have last : name.getLast? ≠ some brackets.closing := by
      rw [← same, Quoting.getLast?_doubled]
      exact stripped.back
    obtain rfl := stripped.whole first last
    have length := Quoting.length_doubled (q := brackets) name
    rw [same] at length
    exact ⟨first, List.count_eq_zero.1 (by omega)⟩
  · rintro ⟨first, unclosed⟩
    obtain rfl := stripped.whole first fun last => unclosed (List.mem_of_getLast? last)
    exact Quoting.doubled_of_not_mem unclosed

end Stripped

/-! ### What the statement tests for -/

namespace Dialect

theorem objectTest?_opening (name : String) {core rest : List Char}
    (stripped : Stripped name.toList core) (ended : rest.head? ≠ some brackets.closing) :
    objectTest? ((sqlServer.createTableOpening (sqlServer.quote name)).toList ++ rest)
      = some (String.ofList (brackets.doubled core), name, rest) := by
  have tested : withoutBrackets (sqlServer.quote name) = brackets.doubled core :=
    stripped.quote.withoutBrackets
  have written := objectTest_eq (brackets.doubled core) (sqlServer.quote name)
  have opening : sqlServer.createTableOpening (sqlServer.quote name)
      = "IF OBJECT_ID(N" ++ (literal.quote (String.ofList (brackets.doubled core))
        ++ (", N'U') IS NULL CREATE TABLE " ++ sqlServer.quote name)) := by
    rw [← tested] at written ⊢
    rw [createTableOpening, show sqlServer.tableGuard = .objectTest from rfl]
    dsimp only
    rw [written]
    apply String.ext
    simp [Quoting.toList_quote, Quoting.doubled, literal]
  rw [opening]
  exact objectTest?_written _ name ended

theorem sql_createTable (d : Dialect) (m : TableMapping) :
    ∃ definition, (d.createTable m).sql
      = d.createTableOpening (d.quote m.table) ++ (" (" ++ definition) := by
  let definition := d.tableDefinition (m.columns.map d.columnDef)
    (if m.keyColumn.generated then none else some m.keyColumn.name)
  have sql : (d.createTable m).sql
      = d.createTableOpening (d.quote m.table) ++ " (" ++ definition ++ ")" := rfl
  rw [sql, String.append_assoc, String.append_assoc]
  exact ⟨_, rfl⟩

/-- The test for an existing table is read back as the name without the opening brackets at its
front and the closing brackets at its end, with each closing bracket in between doubled; and the
table that the same statement creates is read back as the name itself. So the test is about this
table exactly if its name does not begin with an opening bracket and has no closing one. This holds
of the opening of a statement, whatever follows, and of the whole statement for a table. -/
theorem objectTest_reads (name : String) :
    ∃ core, Stripped name.toList core ∧
      (∀ rest, rest.head? ≠ some brackets.closing →
        objectTest? ((sqlServer.createTableOpening (sqlServer.quote name)).toList ++ rest)
          = some (String.ofList (brackets.doubled core), name, rest)) ∧
      (∀ m : TableMapping, m.table = name →
        ∃ definition, objectTest? (sqlServer.createTable m).sql.toList
          = some (String.ofList (brackets.doubled core), name, definition)) ∧
      (String.ofList (brackets.doubled core) = name
        ↔ name.toList.head? ≠ some brackets.opening ∧ brackets.closing ∉ name.toList) := by
  have stripped := Stripped.of_withoutBrackets name
  refine ⟨_, stripped, fun rest ended => objectTest?_opening name stripped ended, ?_, ?_⟩
  · rintro m rfl
    obtain ⟨definition, sql⟩ := sql_createTable sqlServer m
    rw [sql, String.toList_append]
    exact ⟨_, objectTest?_opening m.table stripped
      (by simp [brackets, sqlServer, Quoting.brackets])⟩
  · rw [← stripped.doubled_eq_iff, String.ext_iff, String.toList_ofList]

theorem objectTest_reads_order :
    sqlServer.createTableOpening (sqlServer.quote "order's")
      = "IF OBJECT_ID(N'order''s', N'U') IS NULL CREATE TABLE [order's]" ∧
    objectTest? ((sqlServer.createTableOpening (sqlServer.quote "order's")).toList ++ " (".toList)
      = some ("order's", "order's", " (".toList) := by
  obtain ⟨core, -, read, -, same⟩ := objectTest_reads "order's"
  have spelled := same.2 (by decide +kernel)
  have read := read " (".toList (by decide)
  rw [spelled] at read
  exact ⟨by decide +kernel, read⟩

/-- The test is not always about the table that is created: with a bracket inside, the name of the
test is another one, so that the statement creates its table whether or not there is one. -/
theorem objectTest_misses :
    ¬ ∀ name rest, rest.head? ≠ some brackets.closing →
      ∃ created, objectTest? ((sqlServer.createTableOpening (sqlServer.quote name)).toList ++ rest)
        = some (name, created, rest) := by
  intro always
  obtain ⟨created, read⟩ := always "a]b" [] (by simp)
  have misread : objectTest? ((sqlServer.createTableOpening (sqlServer.quote "a]b")).toList ++ [])
      = some ("a]]b", "a]b", []) := by decide +kernel
  have same := misread.symm.trans read
  simp at same

end Dialect

end IdentityMap.Sql
