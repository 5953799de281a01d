/-!
# Tokens of a statement

A statement is read as names in double quotes, words of letters, and single marks. A doubled quote
inside a name stands for one.
-/

namespace IdentityMap.Sql

inductive Token
  | name (s : String)
  | word (s : String)
  | mark (c : Char)
deriving DecidableEq, Repr

namespace Token

/-- What the characters before the next one were, the last one first. -/
inductive Progress
  | nothing
  | word (letters : List Char)
  | name (chars : List Char)
  /-- A name and a quote: the quote ends the name unless another one follows. -/
  | closing (chars : List Char)
deriving DecidableEq

def collected (chars : List Char) : String := String.ofList chars.reverse

/-- The token that is complete when no character continues it. -/
def Progress.finish : Progress → Option (List Token)
  | nothing => some []
  | word letters => some [.word (collected letters)]
  | name _ => none
  | closing chars => some [.name (collected chars)]

/-- What a character begins: the tokens that it makes by itself and the progress after it. -/
def start (c : Char) : List Token × Progress :=
  if c = '"' then ([], .name [])
  else if c.isAlpha then ([], .word [c])
  else if c = ' ' then ([], .nothing)
  else ([.mark c], .nothing)

def scanFrom : Progress → List Char → Option (List Token)
  | p, [] => p.finish
  | .name chars, c :: rest =>
    if c = '"' then scanFrom (.closing chars) rest else scanFrom (.name (c :: chars)) rest
  | .closing chars, c :: rest =>
    if c = '"' then scanFrom (.name (c :: chars)) rest
    else
      let (tokens, p) := start c
      (scanFrom p rest).map (.name (collected chars) :: tokens ++ ·)
  | .word letters, c :: rest =>
    if c.isAlpha then scanFrom (.word (c :: letters)) rest
    else
      let (tokens, p) := start c
      (scanFrom p rest).map (.word (collected letters) :: tokens ++ ·)
  | .nothing, c :: rest =>
    let (tokens, p) := start c
    (scanFrom p rest).map (tokens ++ ·)

/-- The tokens of a text, unless it ends inside a name. -/
def scan (text : String) : Option (List Token) := scanFrom .nothing text.toList

end Token

end IdentityMap.Sql
