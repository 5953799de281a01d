import IdentityMap.Toml.Scalar
/-!
# Strings of a settings document

Strings in double quotes have escapes, strings in single quotes have none; tripled quotes let a
string run over several lines. Each reader starts after the opening quotes and hands back the
string's characters and what follows the closing quotes.
-/

namespace IdentityMap.Toml

/-- The character shows in a string as it stands: a tab, or no control character. -/
def isPlain (c : Char) : Bool := c = '\t' || (0x20 ≤ c.toNat && c.toNat ≠ 0x7f)

/-- The single quote. -/
def singleQuote : Char := '\x27'

/-- The character with this code point, if there is one. -/
def codePoint? (digits : List Char) : Option Char :=
  if digits.all isHexDigit then
    let code := digitsValue 16 digits
    if h : code.isValidChar then some (Char.ofNatAux code h) else none
  else none

/-- What a letter after a backslash stands for. -/
def escaped? : Char → Option Char
  | 'b' => some (Char.ofNat 8)
  | 't' => some '\t'
  | 'n' => some '\n'
  | 'f' => some (Char.ofNat 12)
  | 'r' => some '\r'
  | '"' => some '"'
  | '\\' => some '\\'
  | _ => none

/-- Put a character in front of what was read. -/
def cons? (c : Option Char) (read : Option (List Char × List Char)) :
    Option (List Char × List Char) :=
  match c, read with
  | some c, some (body, rest) => some (c :: body, rest)
  | _, _ => none

/-- A string in double quotes. -/
def basicBody : List Char → Option (List Char × List Char)
  | '"' :: rest => some ([], rest)
  | '\\' :: 'u' :: a :: b :: c :: d :: rest => cons? (codePoint? [a, b, c, d]) (basicBody rest)
  | '\\' :: 'U' :: a :: b :: c :: d :: e :: f :: g :: h :: rest =>
    cons? (codePoint? [a, b, c, d, e, f, g, h]) (basicBody rest)
  | '\\' :: c :: rest => cons? (escaped? c) (basicBody rest)
  | c :: rest => if isPlain c then cons? (some c) (basicBody rest) else none
  | [] => none

/-- A string in single quotes. -/
def literalBody : List Char → Option (List Char × List Char)
  | [] => none
  | c :: rest =>
    if c = singleQuote then some ([], rest)
    else if isPlain c then cons? (some c) (literalBody rest) else none

/-- The quotes at the front that close a string of several lines: three, after at most two that
belong to the string. -/
def closing? (quote : Char) (text : List Char) : Option (List Char × List Char) :=
  let run := ((text.take 5).takeWhile (· = quote)).length
  if 3 ≤ run then some (List.replicate (run - 3) quote, text.drop run) else none

/-- Where the reader of a string of several lines stands. -/
inductive LineMode
  | inside
  /-- After a backslash, before the end of its line. -/
  | folding
  /-- After such an end of line, before the next visible character. -/
  | folded
deriving DecidableEq, Repr

/-- A string in tripled double quotes. -/
def multiBasicBody : LineMode → List Char → Option (List Char × List Char)
  | _, [] => none
  | .folding, ' ' :: rest | .folding, '\t' :: rest => multiBasicBody .folding rest
  | .folding, '\n' :: rest | .folding, '\r' :: '\n' :: rest => multiBasicBody .folded rest
  | .folding, _ :: _ => none
  | .folded, ' ' :: rest | .folded, '\t' :: rest => multiBasicBody .folded rest
  | .folded, '\n' :: rest | .folded, '\r' :: '\n' :: rest => multiBasicBody .folded rest
  | _, '\n' :: rest | _, '\r' :: '\n' :: rest => cons? (some '\n') (multiBasicBody .inside rest)
  | _, '\\' :: 'u' :: a :: b :: c :: d :: rest =>
    cons? (codePoint? [a, b, c, d]) (multiBasicBody .inside rest)
  | _, '\\' :: 'U' :: a :: b :: c :: d :: e :: f :: g :: h :: rest =>
    cons? (codePoint? [a, b, c, d, e, f, g, h]) (multiBasicBody .inside rest)
  | _, '\\' :: ' ' :: rest | _, '\\' :: '\t' :: rest => multiBasicBody .folding rest
  | _, '\\' :: '\n' :: rest | _, '\\' :: '\r' :: '\n' :: rest => multiBasicBody .folded rest
  | _, '\\' :: c :: rest => cons? (escaped? c) (multiBasicBody .inside rest)
  | _, c :: rest =>
    match closing? '"' (c :: rest) with
    | some closed => some closed
    | none => if isPlain c then cons? (some c) (multiBasicBody .inside rest) else none

/-- A string in tripled single quotes. -/
def multiLiteralBody : List Char → Option (List Char × List Char)
  | [] => none
  | '\n' :: rest | '\r' :: '\n' :: rest => cons? (some '\n') (multiLiteralBody rest)
  | c :: rest =>
    match closing? singleQuote (c :: rest) with
    | some closed => some closed
    | none => if isPlain c then cons? (some c) (multiLiteralBody rest) else none

/-- A line end right after the opening quotes does not belong to the string. -/
def withoutFirstLineEnd : List Char → List Char
  | '\n' :: rest => rest
  | '\r' :: '\n' :: rest => rest
  | text => text

/-- The string that a text starts with, of one line or of several. -/
def readString (text : List Char) : Option (String × List Char) :=
  let triple (quote : Char) : Bool := text.take 3 = [quote, quote, quote]
  let body :=
    if triple '"' then multiBasicBody .inside (withoutFirstLineEnd (text.drop 3))
    else if triple singleQuote then multiLiteralBody (withoutFirstLineEnd (text.drop 3))
    else
      match text with
      | c :: rest =>
        if c = '"' then basicBody rest
        else if c = singleQuote then literalBody rest
        else none
      | [] => none
  body.map fun (chars, rest) => (String.ofList chars, rest)

def isBareKeyChar (c : Char) : Bool := c.isAlphanum || c = '_' || c = '-'

/-- One name of a key: bare, or a string of one line. -/
def readName (text : List Char) : Option (String × List Char) :=
  match text with
  | [] => none
  | c :: rest =>
    if c = '"' then (basicBody rest).map fun (chars, rest) => (String.ofList chars, rest)
    else if c = singleQuote then
      (literalBody rest).map fun (chars, rest) => (String.ofList chars, rest)
    else
      let name := text.takeWhile isBareKeyChar
      if name = [] then none else some (String.ofList name, text.drop name.length)

end IdentityMap.Toml
