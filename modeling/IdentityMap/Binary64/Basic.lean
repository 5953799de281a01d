/-!
# Binary floating point of 64 bits

A number is its 64 bits: a sign, an exponent field of 11 bits and a fraction field of 52 bits.
Everything here is exact arithmetic on those fields. `Binary64.same` is the comparison of numbers:
the two zeros are the same, and what is not a number is the same as nothing.
-/

namespace IdentityMap

structure Binary64 where
  bits : UInt64
deriving DecidableEq, Repr, Inhabited

namespace Binary64

/-- How many values the fraction field has. -/
def fractionLimit : Nat := Nat.pow 2 52

/-- The exponent field of infinities and of what is not a number. -/
def exponentLimit : Nat := 2047

def fraction (x : Binary64) : Nat := x.bits.toNat % fractionLimit

def exponent (x : Binary64) : Nat := x.bits.toNat / fractionLimit % 2048

def negative (x : Binary64) : Bool := Nat.pow 2 63 ≤ x.bits.toNat

def isNaN (x : Binary64) : Bool := x.exponent == exponentLimit && x.fraction != 0

def isInfinite (x : Binary64) : Bool := x.exponent == exponentLimit && x.fraction == 0

def isZero (x : Binary64) : Bool := x.exponent == 0 && x.fraction == 0

/-- Equality of the numbers, not of the bits. -/
def same (x y : Binary64) : Bool :=
  !x.isNaN && !y.isNaN && (x.bits == y.bits || (x.isZero && y.isZero))

/-- The number with the given sign and the given exponent and fraction fields, which may be passed
as one number: a fraction that reaches its limit counts into the exponent. -/
def ofFields (negative : Bool) (exponent fraction : Nat) : Binary64 :=
  ⟨UInt64.ofNat ((if negative then Nat.pow 2 63 else 0) + exponent * fractionLimit + fraction)⟩

def infinity (negative : Bool) : Binary64 := ofFields negative exponentLimit 0

/-- The form of what is not a number that is written for all of them. -/
def nan : Binary64 := ofFields false exponentLimit (Nat.pow 2 51)

/-- A finite number's magnitude as `(m, q)`, standing for `m * 2 ^ q`. -/
def magnitude (x : Binary64) : Nat × Int :=
  if x.exponent = 0 then (x.fraction, -1074)
  else (fractionLimit + x.fraction, (x.exponent : Int) - 1075)

theorem same_self {x : Binary64} (h : x.isNaN = false) : x.same x = true := by
  simp [same, h]

theorem same_comm (x y : Binary64) : x.same y = y.same x := by
  simp only [same, Bool.and_comm (!x.isNaN), Bool.beq_comm (a := x.bits), Bool.and_comm x.isZero]

end Binary64

end IdentityMap
