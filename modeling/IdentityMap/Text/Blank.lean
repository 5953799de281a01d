/-!
# White space

The characters with the Unicode property `White_Space`, and text that holds nothing else.
-/

namespace IdentityMap.Text

/-- The Unicode property `White_Space`. -/
def isBlank (c : Char) : Bool :=
  let code := c.toNat
  (0x9 ≤ code && code ≤ 0xd) || code == 0x20 || code == 0x85 || code == 0xa0 || code == 0x1680
    || (0x2000 ≤ code && code ≤ 0x200a) || code == 0x2028 || code == 0x2029 || code == 0x202f
    || code == 0x205f || code == 0x3000

/-- The text is empty or white space throughout. -/
def blank (text : String) : Bool := text.toList.all isBlank

end IdentityMap.Text
