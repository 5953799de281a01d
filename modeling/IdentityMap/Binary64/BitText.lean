import IdentityMap.Binary64.Basic
import IdentityMap.Text.Hexadecimal
/-!
# The bits of a number as text

Sixteen hexadecimal digits, the sign first. What is no number has one text, whatever its bits are.
-/

namespace IdentityMap.Binary64

def bitText (x : Binary64) : String :=
  if x.isNaN then "nan"
  else
    let bytes := (List.range 8).map fun i => UInt8.ofNat (x.bits.toNat / Nat.pow 256 (7 - i) % 256)
    String.ofList (Text.hexBytes bytes)

def ofBitText? (text : String) : Option Binary64 :=
  if text = "nan" then some nan
  else
    (Text.ofHexBytes? text.toList).bind fun bytes =>
      if bytes.length = 8 then
        some ⟨UInt64.ofNat (bytes.foldl (fun n b => 256 * n + b.toNat) 0)⟩
      else none

end IdentityMap.Binary64
