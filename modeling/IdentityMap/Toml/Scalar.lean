import IdentityMap.Binary64.Rounding
import IdentityMap.Calendar.Basic
import IdentityMap.Toml.Node
/-!
# Words of a settings document

Numbers, truth values, dates and times. Each is one word without spaces, except that a space may
part a date from its time; a word is taken as a whole or not at all.
-/

namespace IdentityMap.Toml

def isWordChar (c : Char) : Bool :=
  c.isAlphanum || c = '_' || c = '+' || c = '-' || c = '.' || c = ':'

/-- The digits of a number; an underscore may stand between two of them. -/
def ungrouped (isDigit : Char → Bool) : List Char → Option (List Char)
  | [] => none
  | [c] => if isDigit c then some [c] else none
  | c :: '_' :: rest => if isDigit c then (ungrouped isDigit rest).map (c :: ·) else none
  | c :: rest => if isDigit c then (ungrouped isDigit rest).map (c :: ·) else none

def isBinaryDigit (c : Char) : Bool := c = '0' || c = '1'

def isOctalDigit (c : Char) : Bool := '0' ≤ c && c ≤ '7'

def isHexDigit (c : Char) : Bool :=
  c.isDigit || ('a' ≤ c && c ≤ 'f') || ('A' ≤ c && c ≤ 'F')

def hexDigitValue (c : Char) : Nat :=
  if c.isDigit then c.toNat - '0'.toNat
  else if 'a' ≤ c then c.toNat - 'a'.toNat + 10
  else c.toNat - 'A'.toNat + 10

def digitsValue (base : Nat) (digits : List Char) : Nat :=
  digits.foldl (fun n c => n * base + hexDigitValue c) 0

/-- The largest integer of the format. -/
def integerLimit : Nat := Nat.pow 2 63 - 1

def natural? (base : Nat) (isDigit : Char → Bool) (digits : List Char) : Option Node :=
  (ungrouped isDigit digits).bind fun digits =>
    let n := digitsValue base digits
    if n ≤ integerLimit then some (.integer n) else none

/-- Decimal digits that do not start with a needless zero. -/
def decimalDigits? (digits : List Char) : Option (List Char) :=
  (ungrouped Char.isDigit digits).bind fun plain =>
    match plain with
    | '0' :: _ :: _ => none
    | _ => some plain

/-- The sign of a number and what follows it. -/
def splitSign : List Char → Bool × List Char
  | '-' :: rest => (true, rest)
  | '+' :: rest => (false, rest)
  | word => (false, word)

def integer? (word : List Char) : Option Node :=
  match word with
  | '0' :: 'x' :: digits => natural? 16 isHexDigit digits
  | '0' :: 'o' :: digits => natural? 8 isOctalDigit digits
  | '0' :: 'b' :: digits => natural? 2 isBinaryDigit digits
  | _ =>
    let (negative, digits) := splitSign word
    (decimalDigits? digits).bind fun digits =>
      let n := digitsValue 10 digits
      if negative then if n ≤ integerLimit + 1 then some (.integer (-(n : Int))) else none
      else if n ≤ integerLimit then some (.integer n) else none

/-- A power of ten: a sign and digits. -/
def exponent? (text : List Char) : Option Int :=
  let (negative, digits) := splitSign text
  (ungrouped Char.isDigit digits).map fun digits =>
    let n := digitsValue 10 digits
    if negative then -(n : Int) else n

/-- A number with a fraction, an exponent or both, or one of the named numbers. A number past the
largest finite one is refused, while one past the smallest is the negative infinity. -/
def real? (word : List Char) : Option Node :=
  let (negative, magnitude) := splitSign word
  if magnitude = ['i', 'n', 'f'] then some (.real (.infinity negative))
  else if magnitude = ['n', 'a', 'n'] then some (.real .nan)
  else
    let isMark (c : Char) : Bool := c = 'e' || c = 'E'
    let mantissa := magnitude.takeWhile (!isMark ·)
    let power := magnitude.drop mantissa.length
    let whole := mantissa.takeWhile (· ≠ '.')
    let fraction := mantissa.drop whole.length
    if power = [] ∧ fraction = [] then none
    else
      (decimalDigits? whole).bind fun whole =>
        (match fraction with
          | [] => some []
          | _ :: digits => ungrouped Char.isDigit digits).bind fun places =>
          (match power with
            | [] => some 0
            | _ :: text => exponent? text).bind fun power =>
            let x := Binary64.ofDecimal negative (digitsValue 10 (whole ++ places))
              (power - places.length)
            if x.isInfinite ∧ negative = false then none else some (.real x)

/-- A number of exactly `width` digits in front of a text. -/
def fixedDigits? (width : Nat) (text : List Char) : Option (Nat × List Char) :=
  let digits := text.take width
  if digits.length = width ∧ digits.all Char.isDigit then
    some (digitsValue 10 digits, text.drop width)
  else
    none

def mark? (c : Char) : List Char → Option (List Char)
  | d :: rest => if c = d then some rest else none
  | [] => none

/-- A date in front of a text; the rest of the text. -/
def date? (text : List Char) : Option (List Char) := do
  let (year, text) ← fixedDigits? 4 text
  let text ← mark? '-' text
  let (month, text) ← fixedDigits? 2 text
  let text ← mark? '-' text
  let (day, text) ← fixedDigits? 2 text
  if (Calendar.Date.of? year month day).isSome then some text else none

/-- A time of day in front of a text, with second 60 for leap seconds. -/
def time? (text : List Char) : Option (List Char) := do
  let (hour, text) ← fixedDigits? 2 text
  let text ← mark? ':' text
  let (minute, text) ← fixedDigits? 2 text
  let text ← mark? ':' text
  let (second, text) ← fixedDigits? 2 text
  if hour < 24 ∧ minute < 60 ∧ second ≤ 60 then
    match text with
    | '.' :: places =>
      let rest := places.dropWhile Char.isDigit
      if rest.length < places.length then some rest else none
    | _ => some text
  else none

/-- The whole text is a distance from universal time, or nothing. -/
def isOffset (text : List Char) : Bool :=
  match text with
  | [] => true
  | ['Z'] | ['z'] => true
  | sign :: rest =>
    (sign = '+' || sign = '-') &&
      (match fixedDigits? 2 rest with
        | some (hour, ':' :: rest) =>
          match fixedDigits? 2 rest with
          | some (minute, []) => hour < 24 && minute < 60
          | _ => false
        | _ => false)

/-- A date, a time, or a date and a time with the letter `T` between them. -/
def moment? (word : List Char) : Option Node :=
  match date? word with
  | some [] => some .moment
  | some (c :: rest) =>
    if c = 'T' ∨ c = 't' then
      (time? rest).bind fun rest => if isOffset rest then some .moment else none
    else none
  | none =>
    match time? word with
    | some [] => some .moment
    | _ => none

def scalar? (word : List Char) : Option Node :=
  if word = ['t', 'r', 'u', 'e'] then some (.boolean true)
  else if word = ['f', 'a', 'l', 's', 'e'] then some (.boolean false)
  else ((integer? word).or (real? word)).or (moment? word)

/-- The next word of a text as a node. A date takes a time after a space along. -/
def readScalar (text : List Char) : Option (Node × List Char) :=
  let word := text.takeWhile isWordChar
  let rest := text.drop word.length
  match date? word, rest with
  | some [], ' ' :: more =>
    let time := more.takeWhile isWordChar
    match time? time with
    | some offset =>
      if isOffset offset then some (.moment, more.drop time.length) else none
    | none => some (.moment, rest)
  | _, _ => (scalar? word).map fun node => (node, rest)

end IdentityMap.Toml
