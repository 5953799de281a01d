import IdentityMap.Database.Basic
import IdentityMap.Proofs.Sql.Indexes
import IdentityMap.Proofs.Sql.Tokens
/-!
# Commands are read back from their text

A row store is handed text, while what it promises is said of commands. The two belong together: in
the spelling with double quotes and question marks the text of a command is read as the command
again (`Dialect.Plainspoken.read?_render`). The two halves of the proof meet at the tokens of the
command: the text is scanned into these, and they are read as the command. Which key an insert is to
report is not part of this text.

The dialect of SQLite spells so. Every statement about the table of a type whose columns it can
store is read back as the command that it was made from (`Dialect.sqlite_readable`), and a database
plans what it reads as it plans this command (`Database.commandOf_sql`).
-/

namespace IdentityMap.Sql

theorem commas_cons_cons (first second : List Token) (others : List (List Token)) :
    commas (first :: second :: others) = first ++ .mark ',' :: commas (second :: others) := by
  simp [commas]

/-- A last part behind some others. -/
theorem commas_concat {parts : List (List Token)} (wide : parts ≠ []) (last : List Token) :
    commas (parts ++ [last]) = commas parts ++ .mark ',' :: last := by
  induction parts with
  | nil => exact absurd rfl wide
  | cons part parts ih =>
    cases parts with
    | nil => simp [commas]
    | cons next parts =>
      have later := ih (List.cons_ne_nil next parts)
      rw [List.cons_append] at later
      rw [List.cons_append, List.cons_append, commas_cons_cons, later, commas_cons_cons,
        List.append_assoc, List.cons_append]

/-- A reader of parts with commas between them: what it makes of the last part with what stands
behind, and of any other. -/
theorem read_commas {α β : Type} {read : List Token → Option (List α × β)}
    {part : α → List Token} {behind : List Token} {found : β} {xs : List α}
    (last : ∀ x ∈ xs, read (part x ++ behind) = some ([x], found))
    (more : ∀ x ∈ xs, ∀ rest, read (part x ++ .mark ',' :: rest)
      = (read rest).map fun later => (x :: later.1, later.2))
    (wide : xs ≠ []) : read (commas (xs.map part) ++ behind) = some (xs, found) := by
  induction xs with
  | nil => exact absurd rfl wide
  | cons x xs ih =>
    cases xs with
    | nil => simpa [commas] using last x List.mem_cons_self
    | cons next xs =>
      have later := ih (fun x listed => last x (List.mem_cons_of_mem _ listed))
        (fun x listed => more x (List.mem_cons_of_mem _ listed)) (List.cons_ne_nil next xs)
      rw [List.map_cons] at later
      rw [List.map_cons, List.map_cons, commas_cons_cons, List.append_assoc, List.cons_append,
        more x List.mem_cons_self, later]
      rfl

namespace Command

/-- The command as far as its text tells: an insert does not say which key it is to report. -/
def unreported : Command → Command
  | insert table columns rows _ => insert table columns rows none
  | c => c

theorem readNames_tokens {names : List String} (wide : names ≠ []) (rest : List Token) :
    readNames (nameTokens names ++ .mark ')' :: rest) = some (names, rest) :=
  read_commas (fun _ _ => rfl) (fun _ _ _ => rfl) wide

theorem readSelected_tokens {names : List String} (wide : names ≠ []) (rest : List Token) :
    readSelected (nameTokens names ++ .word "FROM" :: rest) = some (names, rest) :=
  read_commas (fun _ _ => rfl) (fun _ _ _ => rfl) wide

theorem readAssignments_tokens {columns : List String} (wide : columns ≠ [])
    (rest : List Token) :
    readAssignments (commas (columns.map assignmentTokens) ++ .word "WHERE" :: rest)
      = some (columns, rest) :=
  read_commas (fun _ _ => rfl) (fun _ _ _ => rfl) wide

theorem readPlaceholders_tokens (count : Nat) (rest : List Token) :
    readPlaceholders (placeholderTokens (count + 1) ++ .mark ')' :: rest)
      = some (count + 1, rest) := by
  induction count with
  | zero => rfl
  | succ count ih =>
    rw [placeholderTokens, List.replicate_succ, List.replicate_succ, commas_cons_cons,
      ← List.replicate_succ, ← placeholderTokens]
    simp only [List.cons_append, List.nil_append, readPlaceholders, ih]
    rfl

theorem readGroups_tokens {fuel width : Nat} (wide : 0 < width) {rows : Nat}
    (enough : rows < fuel) :
    readGroups fuel (commas (List.replicate (rows + 1) (groupTokens width)))
      = some (List.replicate (rows + 1) width) := by
  obtain ⟨width, rfl⟩ := Nat.exists_eq_succ_of_ne_zero (Nat.ne_of_gt wide)
  induction rows generalizing fuel with
  | zero =>
    obtain ⟨fuel, rfl⟩ := Nat.exists_eq_succ_of_ne_zero (Nat.ne_zero_of_lt enough)
    have read := readPlaceholders_tokens width []
    simp [commas, groupTokens, readGroups, read]
  | succ rows ih =>
    obtain ⟨fuel, rfl⟩ := Nat.exists_eq_succ_of_ne_zero (Nat.ne_zero_of_lt enough)
    have later := ih (Nat.lt_of_succ_lt_succ enough)
    have read := readPlaceholders_tokens width
    rw [List.replicate_succ, List.replicate_succ, commas_cons_cons, ← List.replicate_succ]
    simp only [groupTokens, List.cons_append, List.append_assoc, List.nil_append] at later ⊢
    simp only [readGroups, read, later]
    rfl

theorem readCondition_tokens (key : String) {count : Nat} (positive : 0 < count) :
    readCondition (conditionTokens key count) = some (key, count) := by
  rw [conditionTokens]
  split
  · subst count
    rfl
  · obtain ⟨count, rfl⟩ := Nat.exists_eq_succ_of_ne_zero (Nat.ne_of_gt positive)
    have read := readPlaceholders_tokens count []
    simp [groupTokens, readCondition, read]

theorem readColumns_last {c : ColumnDef} (legible : c.Legible) :
    readColumns (c.tokens ++ [.mark ')']) = some ([c], none) := by
  cases c with
  | plain name type required => cases required <;> rfl
  | generatedKey name definition =>
    cases legible
    simp [ColumnDef.tokens, readColumns, String.append_assoc]

theorem readColumns_more {c : ColumnDef} (legible : c.Legible) (rest : List Token) :
    readColumns (c.tokens ++ .mark ',' :: rest)
      = (readColumns rest).map fun (columns, key) => (c :: columns, key) := by
  cases c with
  | plain name type required => cases required <;> rfl
  | generatedKey name definition =>
    cases legible
    simp [ColumnDef.tokens, readColumns, String.append_assoc]

theorem readColumns_tokens {columns : List ColumnDef} {key : Option String}
    (legible : ∀ c ∈ columns, c.Legible) (defined : columns ≠ [] ∨ key ≠ none) :
    readColumns (definitionTokens columns key ++ [.mark ')']) = some (columns, key) := by
  by_cases empty : columns = []
  · subst empty
    obtain ⟨key, rfl⟩ := Option.ne_none_iff_exists'.1 (defined.resolve_left (· rfl))
    rfl
  rw [definitionTokens]
  cases key with
  | none =>
    rw [Option.map_none, Option.toList_none, List.append_nil]
    exact read_commas (fun c listed => readColumns_last (legible c listed))
      (fun c listed => readColumns_more (legible c listed)) empty
  | some key =>
    have wide : columns.map ColumnDef.tokens ≠ [] := by simpa using empty
    rw [Option.map_some, Option.toList_some, commas_concat wide, List.append_assoc]
    refine read_commas (fun c listed => ?_)
      (fun c listed => readColumns_more (legible c listed)) empty
    rw [List.cons_append, readColumns_more (legible c listed)]
    rfl

theorem nameTokens_cons (name : String) (names : List String) :
    ∃ behind, nameTokens (name :: names) = .name name :: behind := by
  cases names with
  | nil => exact ⟨[], rfl⟩
  | cons next names => exact ⟨_, commas_cons_cons ..⟩

/-! ### What the first words decide -/

/-- Every group takes some of the tokens, so that there is fuel for all of them. -/
theorem rows_lt_length (width rows : Nat) :
    rows < (commas (List.replicate (rows + 1) (groupTokens width))).length := by
  induction rows with
  | zero => simp [commas, groupTokens]
  | succ rows ih =>
    rw [List.replicate_succ, List.replicate_succ, commas_cons_cons, ← List.replicate_succ]
    simp only [List.length_append, List.length_cons]
    omega

theorem readInsert_tokens (table : String) {columns : List String} {rows : Nat}
    (legible : if columns = [] then rows = 1 else 0 < rows) :
    readInsert table (rowTokens columns rows)
      = some (.command (insert table columns rows none)) := by
  by_cases empty : columns = []
  · subst empty
    obtain rfl : rows = 1 := by simpa using legible
    rfl
  · obtain ⟨rows, rfl⟩ := Nat.exists_eq_succ_of_ne_zero
      (Nat.ne_of_gt (by simpa [empty] using legible))
    have names := readNames_tokens empty
    have groups := readGroups_tokens (List.length_pos_iff.2 empty)
      (rows_lt_length columns.length rows)
    rw [rowTokens, if_neg empty]
    simp only [readInsert, names]
    simp only [groups, Option.map_some, insertOf]
    simp

theorem readSelect_all (table key : String) {columns : List String} (wide : columns ≠ []) :
    readSelect (nameTokens columns ++ .word "FROM" :: .name table :: .word "ORDER" :: .word "BY"
        :: [.name key])
      = some (selectAll table columns key) := by
  simp only [readSelect, readSelected_tokens wide]

theorem readSelect_keys (table key : String) {columns : List String} (wide : columns ≠ [])
    {count : Nat} (positive : 0 < count) :
    readSelect (nameTokens columns ++ .word "FROM" :: .name table :: .word "WHERE"
        :: conditionTokens key count)
      = some (selectKeys table columns key count) := by
  rw [readSelect, readSelected_tokens wide]
  simp [readCondition_tokens key positive]

theorem readUpdate_tokens (table key : String) {columns : List String} (wide : columns ≠ []) :
    readUpdate table (commas (columns.map assignmentTokens) ++ .word "WHERE"
        :: assignmentTokens key)
      = some (update table columns key) := by
  rw [readUpdate, readAssignments_tokens wide]
  rfl

theorem readIndex_tokens (name table : String) {columns : List String} (unique : Bool)
    (wide : columns ≠ []) :
    readIndex unique (.name name :: .word "ON" :: .name table :: .mark '('
        :: (nameTokens columns ++ [.mark ')']))
      = some (createIndex name table columns unique false) := by
  simp only [readIndex, readNames_tokens wide]

/-! The first words tell the kinds of commands apart. -/

theorem readTokens_createTable (table : String) (rest : List Token) :
    readTokens (.word "CREATE" :: .word "TABLE" :: .word "IF" :: .word "NOT" :: .word "EXISTS"
        :: .name table :: .mark '(' :: rest)
      = ((readColumns rest).map fun (columns, key) => createTable table columns key).map
        .command := rfl

theorem readTokens_createIndex (unique : Bool) (rest : List Token) :
    readTokens (.word "CREATE" :: (kindTokens unique ++ .word "INDEX" :: rest))
      = (readIndex unique rest).map .command := by
  cases unique <;> rfl

theorem readTokens_select {columns : List String} (wide : columns ≠ []) (rest : List Token) :
    readTokens (.word "SELECT" :: (nameTokens columns ++ rest))
      = (readSelect (nameTokens columns ++ rest)).map .command := by
  obtain ⟨name, names, rfl⟩ := List.exists_cons_of_ne_nil wide
  obtain ⟨behind, begins⟩ := nameTokens_cons name names
  rw [begins]
  rfl

theorem readTokens_update (table : String) (rest : List Token) :
    readTokens (.word "UPDATE" :: .name table :: .word "SET" :: rest)
      = (readUpdate table rest).map .command := rfl

theorem readTokens_deleteKeys (table : String) (rest : List Token) :
    readTokens (.word "DELETE" :: .word "FROM" :: .name table :: .word "WHERE" :: rest)
      = ((readCondition rest).map fun (key, count) => deleteKeys table key count).map
        .command := rfl

/-- The tokens of a command are read as the command. -/
theorem readTokens_tokens {c : Command} (legible : c.Legible) :
    readTokens c.tokens = some (.command c.unreported) := by
  cases c with
  | createTable table columns key =>
    have read := readTokens_createTable table (definitionTokens columns key ++ [.mark ')'])
    rwa [readColumns_tokens legible.1 legible.2] at read
  | createIndex name table columns unique clustered =>
    obtain ⟨wide, rfl⟩ := legible
    have read := readTokens_createIndex unique
      (.name name :: .word "ON" :: .name table :: .mark '(' :: (nameTokens columns ++ [.mark ')']))
    rwa [readIndex_tokens name table unique wide] at read
  | insert table columns rows generated => exact readInsert_tokens table legible
  | selectKeys table columns key count =>
    have read := readTokens_select legible.1
      (.word "FROM" :: .name table :: .word "WHERE" :: conditionTokens key count)
    rwa [readSelect_keys table key legible.1 legible.2] at read
  | selectAll table columns key =>
    have read := readTokens_select legible
      [.word "FROM", .name table, .word "ORDER", .word "BY", .name key]
    rwa [readSelect_all table key legible] at read
  | countRows table => rfl
  | maxKey table key => rfl
  | update table columns key =>
    have read := readTokens_update table
      (commas (columns.map assignmentTokens) ++ .word "WHERE" :: assignmentTokens key)
    rwa [readUpdate_tokens table key legible] at read
  | deleteKeys table key count =>
    have read := readTokens_deleteKeys table (conditionTokens key count)
    rwa [readCondition_tokens key legible] at read
  | deleteAll table => rfl

end Command

namespace Dialect

variable {d : Dialect}

theorem Plainspoken.read?_render (plain : d.Plainspoken) {c : Command} (legible : c.Legible) :
    Command.read? (d.render c) = some (.command c.unreported) := by
  rw [Command.read?, plain.scan_render legible]
  exact Command.readTokens_tokens legible

end Dialect

/-! ### Statements -/

/-- The text of the statement is read back as its command. -/
def Statement.Readable (s : Statement) : Prop :=
  Command.read? s.sql = some (.command s.command.unreported)

namespace Dialect

variable {m : TableMapping}

theorem sqlite_plainspoken : Dialect.sqlite.Plainspoken where
  quoting := rfl
  placeholder := rfl
  tableGuard := rfl
  emptyInsert := rfl
  clusteredIndexes := rfl
  returnsKey := rfl

theorem readable_of_legible {s : Statement} (written : s.sql = Dialect.sqlite.render s.command)
    (legible : s.command.Legible) : s.Readable := by
  rw [Statement.Readable, written]
  exact sqlite_plainspoken.read?_render legible

theorem columnNames_ne_nil (m : TableMapping) : columnNames m.columns ≠ [] :=
  List.ne_nil_of_mem (List.mem_map_of_mem (List.mem_map_of_mem
    m.entityType.wellFormed.keyDeclared))

theorem isLetters_sqliteType {type : ScalarType} {name : String}
    (found : sqliteType type = some name) : isLetters name = true := by
  cases type <;> cases found <;> decide +kernel

theorem legible_columnDef {c : Column} (known : sqliteType c.type ≠ none) :
    (Dialect.sqlite.columnDef c).Legible := by
  rw [columnDef]
  split
  · exact String.append_assoc
  · obtain ⟨name, found⟩ := Option.ne_none_iff_exists'.1 known
    show isLetters ((sqliteType c.type).getD unknownType) = true
    rw [found]
    exact isLetters_sqliteType found

theorem createTable_readable (mapped : Dialect.sqlite.unmappedColumns m = []) :
    (Dialect.sqlite.createTable m).Readable := by
  refine readable_of_legible rfl ⟨fun c listed => ?_, .inl ?_⟩
  · obtain ⟨c, own, rfl⟩ := List.mem_map.1 listed
    have known := List.filter_eq_nil_iff.1 mapped c own
    exact legible_columnDef (by simpa [sqlite] using known)
  · simpa [columnNames] using columnNames_ne_nil m

theorem createIndexes_readable {statements : List Statement}
    (created : Dialect.sqlite.createIndexes m = .ok statements) : ∀ s ∈ statements, s.Readable := by
  rw [createIndexes_eq] at created
  cases lacking : m.entityType.indexes.find? Dialect.sqlite.lacks with
  | some index => simp [lacking] at created
  | none =>
    obtain rfl : _ = statements := by simpa [lacking] using created
    intro s listed
    obtain ⟨index, own, rfl⟩ := List.mem_map.1 listed
    have unclustered : index.clustered = false := by
      simpa [lacks, sqlite] using List.find?_eq_none.1 lacking index own
    exact readable_of_legible rfl
      ⟨columnNamesFor_ne_nil (m.entityType.wellFormed.indexes index own), unclustered⟩

theorem selectKeys_readable {count : Nat} {s : Statement}
    (produced : Dialect.sqlite.selectKeys m count = .ok s) : s.Readable := by
  have positive : 0 < count := by
    refine Nat.pos_of_ne_zero ?_
    rintro rfl
    simp [selectKeys] at produced
  obtain rfl := eq_of_selectKeys_eq_ok produced
  exact readable_of_legible rfl ⟨columnNames_ne_nil m, positive⟩

theorem insert_readable (m : TableMapping) : (Dialect.sqlite.insert m).Readable := by
  refine readable_of_legible rfl ?_
  show if columnNames m.insertColumns = [] then 1 = 1 else 0 < 1
  simp

theorem insertMany_readable {rows : Nat} {s : Statement}
    (produced : Dialect.sqlite.insertMany m rows = .ok s) : s.Readable := by
  have positive : 0 < rows := by
    refine Nat.pos_of_ne_zero ?_
    rintro rfl
    simp [insertMany] at produced
  have wide : columnNames m.insertColumns ≠ [] := by
    rintro narrow
    have width : m.insertColumns.length = 0 := by
      simpa [columnNames] using narrow
    simp [insertMany, width, Nat.ne_of_gt positive, sqlite] at produced
  obtain rfl := eq_of_insertMany_eq_ok produced
  refine readable_of_legible rfl ?_
  show if columnNames m.insertColumns = [] then rows = 1 else 0 < rows
  rwa [if_neg wide]

theorem update_readable {s : Statement} (produced : Dialect.sqlite.update m = some s) :
    s.Readable := by
  have wide : columnNames m.valueColumns ≠ [] := by
    rintro narrow
    have keyOnly : m.valueColumns = [] := by simpa [columnNames] using narrow
    simp [update, keyOnly] at produced
  obtain rfl := eq_of_update_eq_some produced
  exact readable_of_legible rfl wide

theorem deleteKeys_readable {count : Nat} {s : Statement}
    (produced : Dialect.sqlite.deleteKeys m count = .ok s) : s.Readable := by
  have positive : 0 < count := by
    refine Nat.pos_of_ne_zero ?_
    rintro rfl
    simp [deleteKeys] at produced
  obtain rfl := eq_of_deleteKeys_eq_ok produced
  exact readable_of_legible rfl positive

/-- The text of every statement is read back as its command. The table is created only where all
columns can be stored. -/
theorem sqlite_readable (m : TableMapping) :
    let d := Dialect.sqlite
    (d.unmappedColumns m = [] → (d.createTable m).Readable) ∧
    (∀ statements, d.createIndexes m = .ok statements → ∀ s ∈ statements, s.Readable) ∧
    (∀ count s, d.selectKeys m count = .ok s → s.Readable) ∧
    (d.selectAll m).Readable ∧ (d.countRows m).Readable ∧ (d.maxKey m).Readable ∧
    (d.insert m).Readable ∧
    (∀ rows s, d.insertMany m rows = .ok s → s.Readable) ∧
    (∀ s, d.update m = some s → s.Readable) ∧
    (∀ count s, d.deleteKeys m count = .ok s → s.Readable) ∧ (d.deleteAll m).Readable := by
  refine ⟨createTable_readable, fun _ => createIndexes_readable, fun _ _ => selectKeys_readable,
    ?all, ?count, ?largest, insert_readable m, fun _ _ => insertMany_readable,
    fun _ => update_readable, fun _ _ => deleteKeys_readable, ?rest⟩
  case all => exact readable_of_legible rfl (columnNames_ne_nil m)
  all_goals exact readable_of_legible rfl trivial

end Dialect

end IdentityMap.Sql

namespace IdentityMap.Database

theorem plan_unreported (c : Sql.Command) (db : Database) : db.plan c.unreported = db.plan c := by
  cases c <;> rfl

theorem paramCount_unreported (c : Sql.Command) : c.unreported.paramCount = c.paramCount := by
  cases c <;> rfl

/-- What the text of a statement spells out for a database is planned as the statement's command. -/
theorem commandOf_sql {s : Sql.Statement} (readable : s.Readable) (db : Database) :
    ∃ c, commandOf s.sql db = .ok c ∧ c.paramCount = s.command.paramCount ∧
      ∀ db : Database, db.plan c = db.plan s.command := by
  refine ⟨s.command.unreported, ?_, paramCount_unreported _, plan_unreported _⟩
  rw [commandOf, show Sql.Command.read? s.sql = _ from readable]

end IdentityMap.Database
