/-!
# Hexadecimal text

Bytes as pairs of digits. Lower-case digits are written, digits of both cases are read.
-/

namespace IdentityMap.Text

def hexDigit? (c : Char) : Option Nat :=
  if c.isDigit then some (c.toNat - '0'.toNat)
  else if 'a' ≤ c ∧ c ≤ 'f' then some (c.toNat - 'a'.toNat + 10)
  else if 'A' ≤ c ∧ c ≤ 'F' then some (c.toNat - 'A'.toNat + 10)
  else none

def hexByte (b : UInt8) : List Char := [Nat.digitChar (b.toNat / 16), Nat.digitChar (b.toNat % 16)]

def hexBytes (bytes : List UInt8) : List Char := bytes.flatMap hexByte

/-- The bytes that pairs of digits stand for. -/
def ofHexBytes? : List Char → Option (List UInt8)
  | [] => some []
  | high :: low :: rest =>
    match hexDigit? high, hexDigit? low, ofHexBytes? rest with
    | some h, some l, some bytes => some (UInt8.ofNat (16 * h + l) :: bytes)
    | _, _, _ => none
  | [_] => none

end IdentityMap.Text
