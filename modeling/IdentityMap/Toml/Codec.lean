import IdentityMap.Toml.Document
/-!
# Codecs for settings documents

A codec reads the text of a document into the entries of its outermost table, and prints scalars
under their names as a document. Settings are loaded and saved by whatever codec is at hand;
`Toml.lineCodec` reads the format as `Toml.read?` does, and prints a line for each entry.
-/

namespace IdentityMap.Toml

/-- A value that a setting has in a file. -/
inductive Scalar
  | text (s : String)
  | boolean (b : Bool)
  /-- A number without a sign. -/
  | count (n : Nat)
deriving DecidableEq, Repr

namespace Scalar

def node : Scalar → Node
  | .text s => .text s
  | .boolean b => .boolean b
  | .count n => .integer n

/-- The scalar behind the sign of equality. A text stands in double quotes as it is, so it is one
that needs no escapes. -/
def written : Scalar → String
  | .text s => "\"" ++ s ++ "\""
  | .boolean b => toString b
  | .count n => toString n

def fits : Scalar → Bool
  | .count n => n ≤ integerLimit
  | _ => true

end Scalar

/-- The entries that scalars stand for. -/
def nodes (scalars : List (String × Scalar)) : Entries :=
  scalars.map fun (name, scalar) => (name, scalar.node)

/-- The document with a line for each scalar. -/
def document (scalars : List (String × Scalar)) : String :=
  String.join (scalars.map fun (name, scalar) => name ++ " = " ++ scalar.written ++ "\n")

structure Codec where
  /-- The entries of a document, unless the text is none. -/
  read? : String → Option Entries
  /-- The text of a document, or the reason why there is none. -/
  print : List (String × Scalar) → Except String String

/-- The codec that prints line by line. -/
def lineCodec : Codec where
  read? := read?
  print scalars :=
    if scalars.all fun (_, scalar) => scalar.fits then .ok (document scalars)
    else .error "out-of-range value for u64 type"

end IdentityMap.Toml
