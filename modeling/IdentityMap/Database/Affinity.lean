import IdentityMap.Binary64.Shortest
import IdentityMap.Database.Stored
/-!
# Column affinities

The declared type of a column decides what the column makes of a value of another class: a column
of numbers takes a text that spells a number as that number, a column of texts takes a number as its
text, and a column of real numbers holds no integers. A value that cannot be converted stays as it
is. The same conversions are made for a value that is compared with a column.
-/

namespace IdentityMap

/-! ### Texts that spell numbers -/

namespace Numeral

def isSpace (c : Char) : Bool := c = ' ' || (0x9 ≤ c.toNat && c.toNat ≤ 0xd)

def trimmed (text : List Char) : List Char :=
  ((text.dropWhile isSpace).reverse.dropWhile isSpace).reverse

/-- The sign in front of a number, if it is a minus, and what follows it. -/
def splitSign : List Char → Bool × List Char
  | '-' :: rest => (true, rest)
  | '+' :: rest => (false, rest)
  | rest => (false, rest)

def valueOf (digits : List Char) : Nat :=
  digits.foldl (fun n c => 10 * n + (c.toNat - '0'.toNat)) 0

/-- The power of ten that ends a number: nothing at all, or a mark, a sign and digits. -/
def power? : List Char → Option Int
  | [] => some 0
  | c :: rest =>
    let (negative, digits) := splitSign rest
    if (c = 'e' ∨ c = 'E') ∧ digits ≠ [] ∧ digits.all Char.isDigit then
      some (if negative then -(valueOf digits : Int) else valueOf digits)
    else none

/-- The places behind a point, and what follows them; none where no point is. -/
def splitPlaces : List Char → Option (List Char) × List Char
  | '.' :: rest => (some (rest.takeWhile Char.isDigit), rest.dropWhile Char.isDigit)
  | rest => (none, rest)

/-- The number that a text spells, if it spells one. Digits without a point and a power of ten spell
an integer, where 64 bits hold it. -/
def read? (text : String) : Option Stored :=
  let (negative, body) := splitSign (trimmed text.toList)
  let whole := body.takeWhile Char.isDigit
  let (places, rest) := splitPlaces (body.dropWhile Char.isDigit)
  let digits := whole ++ places.getD []
  if digits = [] then none
  else
    (power? rest).map fun power =>
      let size := valueOf digits
      let n : Int := if negative then -size else size
      if places = none ∧ rest = [] ∧ -(Nat.pow 2 63 : Int) ≤ n ∧ n < Nat.pow 2 63 then
        .integer (Int64.ofInt n)
      else .real (Binary64.ofDecimal negative size (power - (places.getD []).length))

end Numeral

/-! ### Texts of real numbers -/

namespace Binary64

/-- The integer that the number is, if it lies strictly inside the range of 64 bits. -/
def integral? (x : Binary64) : Option Int64 :=
  let (m, q) := x.magnitude
  let divisor := Nat.pow 2 (-q).toNat
  let size := m * Nat.pow 2 q.toNat / divisor
  if x.exponent = exponentLimit ∨ m % divisor ≠ 0 ∨ Nat.pow 2 63 - 1 ≤ size then none
  else some (Int64.ofInt (if x.negative then -size else size))

/-- The largest power of ten, from `power` downwards, that is not above `m * 2 ^ q`. -/
def leadingPower (m : Nat) (q : Int) : (fuel : Nat) → (power : Int) → Int
  | 0, power => power
  | fuel + 1, power =>
    if Nat.pow 10 power.toNat * Nat.pow 2 (-q).toNat
        ≤ m * Nat.pow 2 q.toNat * Nat.pow 10 (-power).toNat then power
    else leadingPower m q fuel (power - 1)

/-- The magnitude rounded to 15 digits, a half upwards. -/
def roundedDecimal (m : Nat) (q : Int) : Decimal :=
  if m = 0 then ⟨0, 0⟩
  else
    let power := leadingPower m q 5 (((m.log2 : Int) + 1 + q) * 30103 / 100000 + 1) - 14
    let num := m * Nat.pow 2 q.toNat * Nat.pow 10 (-power).toNat
    let den := Nat.pow 2 (-q).toNat * Nat.pow 10 power.toNat
    Decimal.trimmed 20 ⟨(2 * num + den) / (2 * den), power⟩

/-- At least two digits of a power of ten, behind its sign. -/
def powerText (power : Int) : List Char :=
  let digits := Nat.toDigits 10 power.natAbs
  (if power < 0 then '-' else '+') :: (if digits.length < 2 then '0' :: digits else digits)

/-- The text of a number in a column of texts: 15 digits at most and always a point, with a power of
ten from `10 ^ 15` on and below `10 ^ -4`. -/
def columnText (x : Binary64) : String :=
  let text : List Char :=
    if x.isInfinite then ['I', 'n', 'f']
    else
      let d := roundedDecimal x.magnitude.1 x.magnitude.2
      let digits := d.digitText
      let power : Int := d.power + digits.length - 1
      if d.digits ≠ 0 ∧ (power < -4 ∨ 14 < power) then
        let places := if digits.drop 1 = [] then ['0'] else digits.drop 1
        digits.take 1 ++ '.' :: places ++ 'e' :: powerText power
      else if 0 ≤ d.power then d.plain ++ ['.', '0']
      else d.plain
  String.ofList (if x.negative && !x.isZero then '-' :: text else text)

end Binary64

/-! ### Affinities -/

inductive Affinity
  | numeric
  | real
  | text
  /-- Values stay as they are. -/
  | none
deriving DecidableEq, Repr

namespace Affinity

/-- `part` occurs in a text. -/
def occurs (part : List Char) : List Char → Bool
  | [] => part.isEmpty
  | c :: rest => part.isPrefixOf (c :: rest) || occurs part rest

/-- The affinity that a declared type gives. -/
def ofType (type : String) : Affinity :=
  let mentions (part : String) : Bool := occurs part.toList type.toUpper.toList
  if mentions "INT" then numeric
  else if mentions "CHAR" || mentions "CLOB" || mentions "TEXT" then text
  else if mentions "BLOB" || type.isEmpty then none
  else if mentions "REAL" || mentions "FLOA" || mentions "DOUB" then real
  else numeric

/-- The value as it is compared with a column. -/
def compared (a : Affinity) (v : Stored) : Stored :=
  match a, v with
  | numeric, .text s | real, .text s => (Numeral.read? s).getD v
  | text, .integer n => .text (toString n.toInt)
  | text, .real x => .text x.columnText
  | _, _ => v

/-- The value as a column keeps it. A whole number is kept as an integer by a column of numbers, and
as a real number without the sign of zero by a column of real numbers. -/
def stored (a : Affinity) (v : Stored) : Stored :=
  match a, a.compared v with
  | numeric, .real x => (x.integral?.map Stored.integer).getD (.real x)
  | real, .integer n => .real (Binary64.ofInt n.toInt)
  | real, .real x => if x.isZero then .real (Binary64.ofInt 0) else .real x
  | _, w => w

/-- The value as the number of a row. -/
def rowNumber? (v : Stored) : Option Int64 :=
  match numeric.stored v with
  | .integer n => some n
  | _ => Option.none

end Affinity

end IdentityMap
