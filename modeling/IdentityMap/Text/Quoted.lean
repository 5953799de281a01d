import IdentityMap.Text.Unprinted
/-!
# Quoted text

Text between double quotes, for reading by people: a quote, a backslash, and every character that
would not show by itself are written as escapes.
-/

namespace IdentityMap.Text

/-- A code point in lower-case hexadecimal, without leading zeros. -/
def hexadecimal (code : Nat) : List Char := Nat.toDigits 16 code

/-- The characters that stand for `c` inside quotes. -/
def quotedChar (c : Char) : List Char :=
  if c = '"' ∨ c = '\\' then ['\\', c]
  else if c = '\n' then ['\\', 'n']
  else if c = '\r' then ['\\', 'r']
  else if c = '\t' then ['\\', 't']
  else if c = Char.ofNat 0 then ['\\', '0']
  else if isExtending c || isUnprinted c then
    ['\\', 'u', '\x7b'] ++ hexadecimal c.toNat ++ ['\x7d']
  else [c]

/-- The text between quotes, with escapes. -/
def quoted (text : String) : String :=
  String.ofList ('"' :: text.toList.flatMap quotedChar ++ ['"'])

end IdentityMap.Text
