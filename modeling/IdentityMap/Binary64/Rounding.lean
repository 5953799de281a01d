import IdentityMap.Binary64.Basic
/-!
# Rounding to binary floating point

The number nearest to an integer or to a decimal; of two equally near ones, the one whose last bit
is zero.
-/

namespace IdentityMap

/-- `num / den`, rounded to the nearest integer; a half goes to the even neighbour. -/
def roundedQuotient (num den : Nat) : Nat :=
  let quotient := num / den
  let rest := num % den
  if 2 * rest < den then quotient
  else if den < 2 * rest then quotient + 1
  else if quotient % 2 = 0 then quotient else quotient + 1

namespace Binary64

/-- The number nearest to the integer `n`, which stands below the largest finite number. -/
def ofInt (n : Int) : Binary64 :=
  let size := n.natAbs
  if size = 0 then ofFields false 0 0
  else
    let top := size.log2
    let significand :=
      if top ≤ 52 then size * Nat.pow 2 (52 - top)
      else roundedQuotient size (Nat.pow 2 (top - 52))
    ofFields (n < 0) (top + 1023) (significand - fractionLimit)

/-- The number nearest to `num / den`, both positive; past the largest finite number it is the
infinity. `scale` is the power of two that a unit of the significand stands for. -/
def ofQuotient (negative : Bool) (num den : Nat) : Binary64 :=
  let atScale (scale : Int) : Nat :=
    roundedQuotient (num * Nat.pow 2 (-scale).toNat) (den * Nat.pow 2 scale.toNat)
  let guess : Int := (num.log2 : Int) - den.log2 - 53
  let scale := max (-1074) (if atScale guess < Nat.pow 2 53 then guess else guess + 1)
  let significand := atScale scale
  if significand < fractionLimit then ofFields negative 0 significand
  else
    let field := (scale + 1075).toNat
    if exponentLimit ≤ field + (if significand = Nat.pow 2 53 then 1 else 0) then infinity negative
    else ofFields negative field (significand - fractionLimit)

/-- The number nearest to the decimal `digits * 10 ^ power`. -/
def ofDecimal (negative : Bool) (digits : Nat) (power : Int) : Binary64 :=
  if digits = 0 then ofFields negative 0 0
  else if 400 < power then infinity negative
  else if (digits.log2 : Int) + 3 * power < -1400 then ofFields negative 0 0
  else ofQuotient negative (digits * Nat.pow 10 power.toNat) (Nat.pow 10 (-power).toNat)

end Binary64

end IdentityMap
