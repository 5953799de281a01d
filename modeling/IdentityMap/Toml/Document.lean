import IdentityMap.Toml.Strings
/-!
# Reading a settings document

`Toml.read?` reads the text of a TOML document into the entries of its outermost table, or
nothing if the text breaks the format's rules. Every step takes at least one character, so the
length of the text bounds the number of steps.
-/

namespace IdentityMap.Toml

def skipSpaces (text : List Char) : List Char := text.dropWhile fun c => c = ' ' || c = '\t'

/-- Pass over spaces, line ends and comments; a comment holds no control character. -/
def skipFiller (inComment : Bool) : List Char → Option (List Char)
  | [] => some []
  | '\n' :: rest | '\r' :: '\n' :: rest => skipFiller false rest
  | c :: rest =>
    if inComment then if isPlain c then skipFiller true rest else none
    else if c = '#' then skipFiller true rest
    else if c = ' ' ∨ c = '\t' then skipFiller false rest
    else some (c :: rest)

/-- Pass over what may stand between a statement and the end of its line, and over that. -/
def skipLineEnd (text : List Char) : Option (List Char) :=
  let afterComment :=
    match skipSpaces text with
    | '#' :: comment => comment.dropWhile isPlain
    | rest => rest
  match afterComment with
  | [] => some []
  | '\n' :: rest | '\r' :: '\n' :: rest => some rest
  | _ => none

/-- How many names a key may have, and how deep arrays and tables inside values may be nested. -/
def nestingLimit : Nat := 79

/-- Names with dots between them, `limit` of them at most. -/
def readPath : (limit : Nat) → List Char → Option (List String × List Char)
  | 0, _ => none
  | limit + 1, text =>
    (readName (skipSpaces text)).bind fun (name, rest) =>
      match skipSpaces rest with
      | '.' :: rest => (readPath limit rest).map fun (names, rest) => (name :: names, rest)
      | rest => some ([name], rest)

/-- A key, taken apart into the path before its last name and that name. -/
def readKey (text : List Char) : Option ((List String × String) × List Char) :=
  (readPath nestingLimit text).bind fun (names, rest) =>
    names.getLast?.map fun last => ((names.dropLast, last), rest)

mutual

/-- The value that a text starts with, inside `depth` arrays and tables. -/
def readValue : (fuel depth : Nat) → List Char → Option (Node × List Char)
  | 0, _, _ => none
  | fuel + 1, depth, text =>
    match text with
    | '[' :: rest =>
      if depth < nestingLimit then
        (readItems fuel (depth + 1) rest).map fun (items, rest) => (.array items, rest)
      else none
    | '\x7b' :: rest =>
      if depth < nestingLimit then
        match skipSpaces rest with
        | '\x7d' :: rest => some (.inlineTable [], rest)
        | rest =>
          (readPairs fuel (depth + 1) [] rest).map fun (entries, rest) =>
            (.inlineTable entries, rest)
      else none
    | c :: _ =>
      if c = '"' ∨ c = singleQuote then
        (readString text).map fun (s, rest) => (.text s, rest)
      else readScalar text
    | [] => none

/-- The items of an array and its closing bracket. -/
def readItems : (fuel depth : Nat) → List Char → Option (List Node × List Char)
  | 0, _, _ => none
  | fuel + 1, depth, text =>
    match skipFiller false text with
    | none => none
    | some (']' :: rest) => some ([], rest)
    | some text =>
      match readValue fuel depth text with
      | none => none
      | some (item, rest) =>
        match skipFiller false rest with
        | some (',' :: rest) =>
          (readItems fuel depth rest).map fun (items, rest) => (item :: items, rest)
        | some (']' :: rest) => some ([item], rest)
        | _ => none

/-- The entries of a table written as one value, and its closing brace. -/
def readPairs : (fuel depth : Nat) → Entries → List Char → Option (Entries × List Char)
  | 0, _, _, _ => none
  | fuel + 1, depth, entries, text =>
    match readKey (skipSpaces text) with
    | some ((path, key), '=' :: rest) =>
      match readValue fuel depth (skipSpaces rest) with
      | none => none
      | some (node, rest) =>
        match entries.assign? path key node with
        | none => none
        | some entries =>
          match skipSpaces rest with
          | ',' :: rest => readPairs fuel depth entries rest
          | '\x7d' :: rest => some (entries, rest)
          | _ => none
    | _ => none

end

/-- A document on the way: the tables that are complete, and the one that is being filled. -/
structure Draft where
  root : Entries
  /-- Where the open table belongs; the outermost table is open at first. -/
  path : List String
  /-- The open table is one of several under its name. -/
  listed : Bool
  entries : Entries

namespace Draft

/-- Put the open table in its place. -/
def close (d : Draft) : Option Entries :=
  match d.path.getLast? with
  | none => some d.entries
  | some name =>
    Entries.within false
      (fun _ outer =>
        match Entries.find? outer name with
        | none =>
          let value := if d.listed then .tables [d.entries] else .table .header d.entries
          some (outer ++ [(name, value)])
        | some (.tables items) =>
          if d.listed then some (Entries.replace outer name (.tables (items ++ [d.entries])))
          else none
        | some (.table .implied _) =>
          if d.listed then none else some (Entries.replace outer name (.table .header d.entries))
        | some _ => none)
      d.path.dropLast .header d.root

/-- What a table that a header opens holds already: the tables that other headers implied. -/
def opened (root : Entries) (path : List String) (name : String) : Entries :=
  let found := path.foldl
    (fun entries key => entries.bind fun entries =>
      match Entries.find? entries key with
      | some (.table _ inner) => some inner
      | some (.tables items) => items.getLast?
      | _ => none)
    (some root)
  match found.bind fun outer => Entries.find? outer name with
  | some (.table .implied inner) => inner
  | _ => []

/-- Open the table of a header. -/
def openTable (d : Draft) (path : List String) (listed : Bool) : Option Draft :=
  d.close.bind fun root =>
    path.getLast?.bind fun name =>
      let entries := if listed then [] else opened root path.dropLast name
      let next : Draft := ⟨root, path, listed, entries⟩
      -- a header that cannot be placed is refused at once
      next.close.map fun _ => next

end Draft

/-- A header's names and its closing brackets. -/
def readHeader (text : List Char) : Option ((List String × Bool) × List Char) :=
  match text with
  | '[' :: rest =>
    (readPath nestingLimit rest).bind fun (path, rest) =>
      match rest with
      | ']' :: ']' :: rest => some ((path, true), rest)
      | _ => none
  | _ =>
    (readPath nestingLimit text).bind fun (path, rest) =>
      match rest with
      | ']' :: rest => some ((path, false), rest)
      | _ => none

/-- Read statement after statement. -/
def readStatements : (fuel : Nat) → Draft → List Char → Option Draft
  | 0, _, _ => none
  | fuel + 1, draft, text =>
    match skipFiller false text with
    | none => none
    | some [] => some draft
    | some ('[' :: rest) =>
      match readHeader rest with
      | none => none
      | some ((path, listed), rest) =>
        match draft.openTable path listed, skipLineEnd rest with
        | some draft, some rest => readStatements fuel draft rest
        | _, _ => none
    | some text =>
      match readKey text with
      | some ((path, key), '=' :: rest) =>
        match readValue (rest.length + 1) 0 (skipSpaces rest) with
        | none => none
        | some (node, rest) =>
          match draft.entries.assign? path key node, skipLineEnd rest with
          | some entries, some rest => readStatements fuel { draft with entries } rest
          | _, _ => none
      | _ => none

/-- The byte order mark, which a text may start with. -/
def byteOrderMark : Char := Char.ofNat 0xfeff

/-- The entries of the document's outermost table. -/
def read? (text : String) : Option Entries :=
  let chars :=
    match text.toList with
    | c :: rest => if c = byteOrderMark then rest else c :: rest
    | [] => []
  (readStatements (chars.length + 1) ⟨[], [], false, []⟩ chars).bind Draft.close

end IdentityMap.Toml
