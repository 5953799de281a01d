import IdentityMap.Binary64.Basic
/-!
# The shortest decimal of a number

A decimal reads back as a number when it lies in the interval of reals that round to the number. Of
the decimals that do, the shortest have the fewest digits; of those, the one nearest to the number
is chosen, and of two equally near ones the larger. `Binary64.plainText` writes it out without an
exponent, `Binary64.scientificText` with an exponent where the number is large or small.
-/

namespace IdentityMap

/-- A decimal `digits * 10 ^ power`. -/
structure Decimal where
  digits : Nat
  power : Int
deriving DecidableEq, Repr

namespace Decimal

/-- The same decimal without final zeros among its digits; `fuel` bounds their count. -/
def trimmed : (fuel : Nat) → Decimal → Decimal
  | 0, d => d
  | fuel + 1, d =>
    if d.digits ≠ 0 ∧ d.digits % 10 = 0 then trimmed fuel ⟨d.digits / 10, d.power + 1⟩ else d

end Decimal

namespace Binary64

/-- The decimals of the grid `10 ^ power` next to the magnitude `m * 2 ^ q` that read back as it.
The interval is measured in quarters of a unit in the last place: two on either side, but only one
below a power of two, where the numbers lie twice as dense. Its ends belong to it when `m` is
even. -/
def nearestOnGrid (m : Nat) (q : Int) (power : Int) : Option Nat :=
  let below := if m = fractionLimit ∧ -1074 < q then 1 else 2
  let factor := Nat.pow 2 (q - 2).toNat * Nat.pow 10 (-power).toNat
  let step := Nat.pow 2 (2 - q).toNat * Nat.pow 10 power.toNat
  let value := 4 * m * factor
  let low := (4 * m - below) * factor
  let high := (4 * m + 2) * factor
  let readsBack (c : Nat) : Bool :=
    if m % 2 = 0 then low ≤ c * step && c * step ≤ high else low < c * step && c * step < high
  let floor := value / step
  match readsBack floor, readsBack (floor + 1) with
  | true, true => some (if 2 * (value - floor * step) < step then floor else floor + 1)
  | true, false => some floor
  | false, true => some (floor + 1)
  | false, false => none

/-- The coarsest grid from `10 ^ power` downwards that has a decimal reading back. -/
def searchGrids (m : Nat) (q : Int) : (fuel : Nat) → (power : Int) → Decimal
  | 0, power => ⟨0, power⟩
  | fuel + 1, power =>
    match nearestOnGrid m q power with
    | some digits => ⟨digits, power⟩
    | none => searchGrids m q fuel (power - 1)

/-- The shortest decimal that reads back as the finite magnitude `m * 2 ^ q`. The search starts
above the magnitude and meets a grid within 17 digits of it. -/
def shortestDecimal (m : Nat) (q : Int) : Decimal :=
  if m = 0 then ⟨0, 0⟩
  else
    let start := ((m.log2 : Int) + 1 + q) * 30103 / 100000 + 2
    (searchGrids m q 25 start).trimmed 25

end Binary64

namespace Decimal

def digitText (d : Decimal) : List Char := Nat.toDigits 10 d.digits

def zeros (count : Nat) : List Char := List.replicate count '0'

/-- The decimal written out, with a fraction only where it has one. -/
def plain (d : Decimal) : List Char :=
  let digits := d.digitText
  if 0 ≤ d.power then
    if d.digits = 0 then ['0'] else digits ++ zeros d.power.toNat
  else
    let places := (-d.power).toNat
    if places < digits.length then
      digits.take (digits.length - places) ++ '.' :: digits.drop (digits.length - places)
    else
      ['0', '.'] ++ zeros (places - digits.length) ++ digits

/-- One digit before the point, the others after it, and the power of ten. -/
def scientific (d : Decimal) : List Char :=
  let digits := d.digitText
  let power : Int := d.power + digits.length - 1
  let size := Nat.toDigits 10 power.natAbs
  let exponent := if power < 0 then '-' :: size else size
  match digits with
  | [] => []
  | [single] => single :: 'e' :: exponent
  | first :: rest => first :: '.' :: rest ++ 'e' :: exponent

end Decimal

namespace Binary64

def shortest (x : Binary64) : Decimal := shortestDecimal x.magnitude.1 x.magnitude.2

/-- The text around a finite magnitude's text: a sign, or the name of what is no finite number. -/
def signedText (x : Binary64) (finite : Decimal → List Char) : String :=
  if x.isNaN then "NaN"
  else
    let body := if x.isInfinite then ['i', 'n', 'f'] else finite x.shortest
    String.ofList (if x.negative then '-' :: body else body)

/-- The number as people write it: never an exponent, and no fraction on a whole number. -/
def plainText (x : Binary64) : String := x.signedText Decimal.plain

/-- The number with a mark that it is a floating-point one: a fraction on whole numbers, and an
exponent from `10 ^ 16` on and below `10 ^ -4`. -/
def scientificText (x : Binary64) : String :=
  x.signedText fun d =>
    let point : Int := d.power + d.digitText.length
    if d.digits ≠ 0 ∧ (17 ≤ point ∨ point < -3) then d.scientific
    else if 0 ≤ d.power then d.plain ++ ['.', '0']
    else d.plain

end Binary64

end IdentityMap
