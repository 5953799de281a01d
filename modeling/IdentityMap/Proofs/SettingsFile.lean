import IdentityMap.Proofs.Toml.Lines
import IdentityMap.Settings.File
import Mathlib.Data.List.Nodup
import Mathlib.Data.List.Perm.Basic
/-!
# Settings and their files

A file gives values for some of the settings (`Settings.Given`) and leaves the others to their
defaults. A document that holds these values under the names of their settings is loaded as exactly
these settings, whatever else it holds and whichever codec reads it. A lawful codec loads the lines
of the given values, in any order (`Settings.Given.load_document`), and what it prints for settings
that pass validation. What is loaded always passes validation (`Settings.files`).
-/

namespace IdentityMap.Settings

open Toml (Codec Entries Node Scalar integerLimit)

/-! ### Values that a file gives -/

/-- The values that a file gives; the other settings have their defaults. -/
structure Given where
  policy : Option CachePolicy := none
  dialect : Option Sql.DialectKind := none
  createTables : Option Bool := none
  batchSize : Option Nat := none
  workers : Option Nat := none

namespace Given

/-- Counts are at least one and can be written. -/
structure Legal (g : Given) : Prop where
  batchSize : ∀ n ∈ g.batchSize, 1 ≤ n ∧ n ≤ integerLimit
  workers : ∀ n ∈ g.workers, 1 ≤ n ∧ n ≤ integerLimit

def settings (g : Given) : Settings :=
  let defaults : Settings := {}
  { policy := g.policy.getD defaults.policy
    dialect := g.dialect.getD defaults.dialect
    createTables := g.createTables.getD defaults.createTables
    batchSize := g.batchSize.getD defaults.batchSize
    workers := g.workers.getD defaults.workers }

/-- The entries hold the given values under the names of their settings, and nothing under the
names of the others. -/
structure HeldIn (g : Given) (entries : Entries) : Prop where
  policy : entries.find? "default_policy" = g.policy.map fun p => .text p.name
  dialect : entries.find? "dialect" = g.dialect.map fun d => .text d.name
  createTables : entries.find? "create_tables" = g.createTables.map .boolean
  batchSize : entries.find? "insert_batch_size" = g.batchSize.map fun n => .integer n
  workers : entries.find? "refresh_workers" = g.workers.map fun n => .integer n

/-- The scalar of a setting, if the file gives a value for it. -/
def scalar {α : Type} (name : String) (write : α → Scalar) (given : Option α) :
    List (String × Scalar) :=
  (given.map fun v => (name, write v)).toList

/-- One scalar for each given value. -/
def scalars (g : Given) : List (String × Scalar) :=
  scalar "default_policy" (fun p => .text p.name) g.policy
    ++ (scalar "dialect" (fun d => .text d.name) g.dialect
    ++ (scalar "create_tables" .boolean g.createTables
    ++ (scalar "insert_batch_size" .count g.batchSize
    ++ (scalar "refresh_workers" .count g.workers ++ []))))

end Given

/-! ### Entries under different names -/

section Entries

variable {entries rearranged : Entries} {name : String} {node : Node}

theorem find?_eq_some_iff (distinct : (entries.map Prod.fst).Nodup) :
    entries.find? name = some node ↔ (name, node) ∈ entries := by
  induction entries with
  | nil => simp [Entries.find?]
  | cons e rest ih =>
    obtain ⟨key, value⟩ := e
    rw [List.map_cons, List.nodup_cons] at distinct
    by_cases same : key = name
    · subst same
      have absent : (key, node) ∉ rest := fun listed => distinct.1 (List.mem_map.2 ⟨_, listed, rfl⟩)
      simp [Entries.find?, absent, eq_comm]
    · have later := ih distinct.2
      simp only [Entries.find?] at later ⊢
      simp [same, Ne.symm same, later]

/-- The order of entries does not matter for what is found. -/
theorem find?_perm (distinct : (entries.map Prod.fst).Nodup) (order : rearranged.Perm entries)
    (name : String) : rearranged.find? name = entries.find? name := by
  refine Option.ext fun node => ?_
  rw [find?_eq_some_iff distinct, find?_eq_some_iff ((order.map _).nodup_iff.2 distinct),
    order.mem_iff]

end Entries

/-! ### The entries of a file's settings -/

section Reading

variable {codec : Codec} {entries : Entries} {α : Type} {name key : String} {write : α → Scalar}
  {given : Option α} {g : Given}

theorem setting_eq {node : α → Node} (read : Node → Option α)
    (found : entries.find? name = given.map node) (reads : ∀ v ∈ given, read (node v) = some v)
    (fallback : α) : setting entries name read fallback = some (given.getD fallback) := by
  rw [setting, found]
  cases given with
  | none => rfl
  | some v => exact reads v rfl

theorem ofEntries?_held (held : g.HeldIn entries) : ofEntries? entries = some g.settings := by
  have policy := setting_eq (fun n => (nameIn? n).bind CachePolicy.ofName?) held.policy
    (fun p _ => by simp [nameIn?])
  have dialect := setting_eq (fun n => (nameIn? n).bind Sql.DialectKind.ofName?) held.dialect
    (fun d _ => by simp [nameIn?])
  have createTables := setting_eq boolIn? held.createTables (fun _ _ => rfl)
  have batchSize := setting_eq countIn? held.batchSize (fun n _ => by simp [countIn?])
  have workers := setting_eq countIn? held.workers (fun n _ => by simp [countIn?])
  simp [ofEntries?, policy, dialect, createTables, batchSize, workers, Given.settings]

theorem Given.Legal.validate (legal : g.Legal) : g.settings.validate = .ok () := by
  have batchSize : g.settings.batchSize ≠ 0 := by
    cases given : g.batchSize with
    | none => simp [Given.settings, given]
    | some n =>
      have := legal.batchSize n given
      simp only [Given.settings, given, Option.getD_some]
      omega
  have workers : g.settings.workers ≠ 0 := by
    cases given : g.workers with
    | none => simp [Given.settings, given]
    | some n =>
      have := legal.workers n given
      simp only [Given.settings, given, Option.getD_some]
      omega
  simp [Settings.validate, batchSize, workers]

/-- Whatever else a document holds, and however it is written, it is loaded as the settings that it
gives. -/
theorem load_held (legal : g.Legal) {text : String} (read : codec.read? text = some entries)
    (held : g.HeldIn entries) : load (some text) codec = .ok g.settings := by
  rw [load, ofText, read, Option.bind_some, ofEntries?_held held]
  simp [legal.validate, Except.map]

theorem validate_of_load {file : Option String} {s : Settings} (loaded : load file codec = .ok s) :
    s.validate = .ok () := by
  cases file with
  | none => cases loaded
  | some text =>
    rw [load, ofText] at loaded
    split at loaded
    · cases loaded
    · rename_i made _
      cases valid : made.validate with
      | error e => simp [valid, Except.map] at loaded
      | ok _ =>
        obtain rfl : made = s := by simpa [valid, Except.map] using loaded
        exact valid

/-! ### The scalars of a file's settings -/

theorem names_scalar : ((Given.scalar name write given).map Prod.fst).Sublist [name] := by
  cases given <;> simp [Given.scalar]

theorem find?_scalar (rest : List (String × Scalar)) :
    Entries.find? (Toml.nodes (Given.scalar key write given ++ rest)) name
      = if key = name then (given.map fun v => (write v).node).or ((Toml.nodes rest).find? name)
        else (Toml.nodes rest).find? name := by
  by_cases same : key = name <;> cases given <;>
    simp [Given.scalar, Toml.nodes, Entries.find?, same]

theorem held_scalars (g : Given) : g.HeldIn (Toml.nodes g.scalars) := by
  have none (name : String) : Entries.find? (Toml.nodes []) name = none := rfl
  constructor <;>
    simp only [Given.scalars, find?_scalar, none, Option.or_none, String.reduceEq, ↓reduceIte,
      Scalar.node]

theorem names_scalars (g : Given) : (g.scalars.map Prod.fst).Nodup := by
  have names : ["default_policy", "dialect", "create_tables", "insert_batch_size",
    "refresh_workers"].Nodup := by decide
  refine names.sublist ?_
  simp only [Given.scalars, List.map_append, List.append_nil]
  exact names_scalar.append
    (names_scalar.append (names_scalar.append (names_scalar.append names_scalar)))

theorem bareName {name : String} (some : name.toList ≠ [])
    (bare : name.toList.all Toml.isBareKeyChar = true) : Toml.BareName name :=
  ⟨some, List.all_eq_true.1 bare⟩

theorem plain_policy (p : CachePolicy) : (Scalar.text p.name).Plain :=
  ⟨by cases p <;> decide, List.all_eq_true.1 (by cases p <;> rfl)⟩

theorem plain_dialect (d : Sql.DialectKind) : (Scalar.text d.name).Plain :=
  ⟨by cases d <;> decide, List.all_eq_true.1 (by cases d <;> rfl)⟩

theorem of_mem_scalar {e : String × Scalar} (listed : e ∈ Given.scalar name write given)
    (named : Toml.BareName name) (plain : ∀ v ∈ given, (write v).Plain) :
    Toml.BareName e.1 ∧ e.2.Plain := by
  obtain ⟨v, present, rfl⟩ : ∃ v, given = some v ∧ (name, write v) = e := by
    simpa [Given.scalar] using listed
  exact ⟨named, plain v present⟩

theorem plain_scalars (legal : g.Legal) : Toml.Plain g.scalars := by
  have each : ∀ e ∈ g.scalars, Toml.BareName e.1 ∧ e.2.Plain := by
    intro e listed
    simp only [Given.scalars, List.append_nil, List.mem_append] at listed
    rcases listed with listed | listed | listed | listed | listed
    · exact of_mem_scalar listed (bareName (by decide) (by decide)) fun p _ => plain_policy p
    · exact of_mem_scalar listed (bareName (by decide) (by decide)) fun d _ => plain_dialect d
    · exact of_mem_scalar listed (bareName (by decide) (by decide)) fun _ _ => trivial
    · exact of_mem_scalar listed (bareName (by decide) (by decide))
        fun n given => (legal.batchSize n given).2
    · exact of_mem_scalar listed (bareName (by decide) (by decide))
        fun n given => (legal.workers n given).2
  exact ⟨fun e listed => (each e listed).1, names_scalars g, fun e listed => (each e listed).2⟩

/-- A text that holds the given scalars, in any order, is loaded as the settings that they give. -/
theorem load_holds (legal : g.Legal) {rearranged : List (String × Scalar)}
    (order : rearranged.Perm g.scalars) {text : String} (holds : codec.Holds text rearranged) :
    load (some text) codec = .ok g.settings := by
  obtain ⟨entries, read, found⟩ := holds
  have names : (Toml.nodes g.scalars).map Prod.fst = g.scalars.map Prod.fst := by
    simp [Toml.nodes, Function.comp_def]
  have same (name : String) : entries.find? name = (Toml.nodes g.scalars).find? name :=
    (found name).trans (find?_perm (names ▸ names_scalars g) (order.map _) name)
  have held := held_scalars g
  exact load_held legal read
    { policy := (same _).trans held.policy
      dialect := (same _).trans held.dialect
      createTables := (same _).trans held.createTables
      batchSize := (same _).trans held.batchSize
      workers := (same _).trans held.workers }

/-- Lines for the given values, in any order, are loaded as the settings that they give. -/
theorem Given.load_document (lawful : codec.Lawful) (legal : g.Legal)
    {rearranged : List (String × Scalar)} (order : rearranged.Perm g.scalars) :
    load (some (Toml.document rearranged)) codec = .ok g.settings :=
  load_holds legal order (lawful.lines rearranged ((plain_scalars legal).perm order))

end Reading

/-! ### Files that are written -/

/-- The file of the settings gives every value. -/
def given (s : Settings) : Given :=
  ⟨some s.policy, some s.dialect, some s.createTables, some s.batchSize, some s.workers⟩

theorem given_legal {s : Settings} (valid : s.validate = .ok ())
    (batchSize : s.batchSize ≤ integerLimit) (workers : s.workers ≤ integerLimit) :
    s.given.Legal := by
  unfold validate at valid
  split at valid
  · cases valid
  split at valid
  · cases valid
  constructor <;> (rintro n ⟨⟩; omega)

theorem toText_load {codec : Codec} (lawful : codec.Lawful) {s : Settings}
    (valid : s.validate = .ok ()) (batchSize : s.batchSize ≤ integerLimit)
    (workers : s.workers ≤ integerLimit) :
    ∃ text, s.toText codec = .ok text ∧ load (some text) codec = .ok s := by
  have legal := given_legal valid batchSize workers
  obtain ⟨text, printed, holds⟩ := lawful.print s.scalars (plain_scalars legal)
  refine ⟨text, ?_, load_holds legal (List.Perm.refl _) holds⟩
  rw [toText, printed]
  rfl

/-- Files keep settings, whichever lawful codec reads and prints them. What is written for settings
that pass validation is loaded as the same settings. A file that gives legal values for any of the
settings is loaded as these values with the defaults for the others, whatever else its document
holds, and so are lines with these values in any order. Loaded settings pass validation. -/
theorem files (codec : Codec) (lawful : codec.Lawful) :
    (∀ s : Settings, s.validate = .ok () → s.batchSize ≤ integerLimit → s.workers ≤ integerLimit →
      ∃ text, s.toText codec = .ok text ∧ load (some text) codec = .ok s) ∧
    (∀ g : Given, g.Legal →
      (∀ text entries, codec.read? text = some entries → g.HeldIn entries →
        load (some text) codec = .ok g.settings) ∧
      ∀ rearranged : List (String × Scalar), rearranged.Perm g.scalars →
        load (some (Toml.document rearranged)) codec = .ok g.settings) ∧
    ∀ file s, load file codec = .ok s → s.validate = .ok () := by
  refine ⟨fun s => toText_load lawful, fun g legal => ⟨fun text entries => load_held legal,
    fun rearranged => Given.load_document lawful legal⟩, fun file s => validate_of_load⟩

theorem files_workers_first :
    let own : Settings := ⟨.cacheOnly, .mySql, false, 64, 2⟩
    let text := String.join ["refresh_workers = 2\n", "dialect = \"sqlite\"\n"]
    Toml.lineCodec.Lawful ∧
    (∃ text, own.toText = .ok text ∧ load (some text) = .ok own) ∧
    load (some text) = .ok { dialect := .sqlite, workers := 2 } ∧
    Settings.validate { dialect := .sqlite, workers := 2 } = .ok () := by
  intro own text
  obtain ⟨again, partly, valid⟩ := files Toml.lineCodec Toml.lineCodec_lawful
  let given : Given := { dialect := some .sqlite, workers := some 2 }
  have legal : given.Legal := ⟨nofun, by rintro n ⟨⟩; decide⟩
  have spelled : Toml.document given.scalars.reverse = text := by decide +kernel
  have loaded := (partly given legal).2 _ (List.reverse_perm _)
  rw [spelled] at loaded
  exact ⟨Toml.lineCodec_lawful, again own rfl (by decide) (by decide), loaded, valid _ _ loaded⟩

end IdentityMap.Settings
