import IdentityMap.Settings.Basic
import IdentityMap.Toml.Codec
/-!
# Settings files

A settings file is a TOML document, read and printed by a codec. A setting that it leaves out has
its default, and entries under other names are passed over. A missing file is `none`.
-/

namespace IdentityMap

open Toml (Codec Entries Node Scalar)

namespace Settings

/-- The text is no document, or a setting in it has no acceptable value. -/
def unreadable : Error := .config "Failed to parse config file"

/-- A node that stands for nothing but its name. -/
def isEmptyNode : Node → Bool
  | .array [] | .inlineTable [] | .table _ [] | .tables [] => true
  | _ => false

/-- A name: a string, or a table whose only entry is empty. -/
def nameIn? : Node → Option String
  | .text s => some s
  | .inlineTable [(name, node)] | .table _ [(name, node)] =>
    if isEmptyNode node then some name else none
  | _ => none

def boolIn? : Node → Option Bool
  | .boolean b => some b
  | _ => none

def countIn? : Node → Option Nat
  | .integer n => if n < 0 then none else some n.toNat
  | _ => none

/-- A setting's value, or its default if the document does not mention it. -/
def setting {α : Type} (entries : Entries) (name : String) (read : Node → Option α)
    (fallback : α) : Option α :=
  match Entries.find? entries name with
  | none => some fallback
  | some node => read node

/-- The settings that a document holds. -/
def ofEntries? (entries : Entries) : Option Settings := do
  let defaults : Settings := {}
  let policy ← setting entries "default_policy" (fun n => (nameIn? n).bind CachePolicy.ofName?)
    defaults.policy
  let dialect ← setting entries "dialect" (fun n => (nameIn? n).bind Sql.DialectKind.ofName?)
    defaults.dialect
  let createTables ← setting entries "create_tables" boolIn? defaults.createTables
  let batchSize ← setting entries "insert_batch_size" countIn? defaults.batchSize
  let workers ← setting entries "refresh_workers" countIn? defaults.workers
  return { policy, dialect, createTables, batchSize, workers }

def ofText (text : String) (codec : Codec := Toml.lineCodec) : Except Error Settings :=
  match (codec.read? text).bind ofEntries? with
  | none => .error unreadable
  | some s => s.validate.map fun _ => s

/-- Load a file. -/
def load (file : Option String) (codec : Codec := Toml.lineCodec) : Except Error Settings :=
  match file with
  | none => .error .io
  | some text => ofText text codec

/-- All settings under their names. -/
def scalars (s : Settings) : List (String × Scalar) := [
  ("default_policy", .text s.policy.name),
  ("dialect", .text s.dialect.name),
  ("create_tables", .boolean s.createTables),
  ("insert_batch_size", .count s.batchSize),
  ("refresh_workers", .count s.workers)]

/-- The settings as the text of a file. -/
def toText (s : Settings) (codec : Codec := Toml.lineCodec) : Except Error String :=
  (codec.print s.scalars).mapError fun reason => .config ("Failed to serialize config: " ++ reason)

/-- The default settings with comments. -/
def defaultText : String := String.intercalate "\n" [
  "# Tessera store configuration",
  "#",
  "# Cache policy used when callers pass store.default_policy():",
  "#   \"cache_only\"    = never touch the backend",
  "#   \"cache_first\"   = serve cached instances, fetch misses (default)",
  "#   \"force_refresh\" = always re-read from the backend",
  "default_policy = \"cache_first\"",
  "",
  "# SQL dialect: \"ansi\" (default), \"postgres\", \"mysql\", \"sqlite\", \"sqlserver\"",
  "dialect = \"ansi\"",
  "",
  "# Create tables and indexes when an entity type is registered (default: true)",
  "create_tables = true",
  "",
  "# Maximum rows per multi-row INSERT (default: 500)",
  "insert_batch_size = 500",
  "",
  "# Worker threads for parallel refresh (default: 4)",
  "refresh_workers = 4",
  ""]

/-- Write the defaults where there is no file yet. -/
def writeDefault (file : Option String) : String := file.getD defaultText

end Settings

end IdentityMap
