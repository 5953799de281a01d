import IdentityMap.Binary64.Shortest
import IdentityMap.Calendar.Pattern
import IdentityMap.Text.Listed
import IdentityMap.Text.Quoted
/-!
# Field values

A value is what a field of a record or a column of a row holds. Integers have 64 bits and a sign.
Values of different kinds are never the same, whatever they hold: `Value.same` compares within a
kind, and numbers by `Binary64.same`.
-/

namespace IdentityMap

inductive Value
  | null
  | bool (b : Bool)
  | int (n : Int64)
  | float (x : Binary64)
  /-- A decimal, kept as it was written. -/
  | decimal (written : String)
  | text (s : String)
  | bytes (b : List UInt8)
  | date (d : Calendar.Date)
  | time (t : Calendar.TimeOfDay)
  | dateTime (t : Calendar.DateTime)
deriving DecidableEq

instance : Inhabited Value := ⟨.null⟩

namespace Value

/-- The name of the value's kind. -/
def kindName : Value → String
  | null => "Null"
  | bool _ => "Bool"
  | int _ => "Int"
  | float _ => "Float"
  | decimal _ => "Decimal"
  | text _ => "Text"
  | bytes _ => "Bytes"
  | date _ => "Date"
  | time _ => "Time"
  | dateTime _ => "DateTime"

def isNull : Value → Bool
  | null => true
  | _ => false

def asBool? : Value → Option Bool
  | bool b => some b
  | _ => none

def asInt? : Value → Option Int64
  | int n => some n
  | _ => none

def asFloat? : Value → Option Binary64
  | float x => some x
  | _ => none

def asText? : Value → Option String
  | text s => some s
  | _ => none

def asBytes? : Value → Option (List UInt8)
  | bytes b => some b
  | _ => none

/-- Equality of values: numbers are compared as numbers. -/
def same : Value → Value → Bool
  | float x, float y => x.same y
  | float _, _ => false
  | _, float _ => false
  | v, w => v = w

/-- The value is a floating-point value that is no number. -/
def isNaN : Value → Bool
  | float x => x.isNaN
  | _ => false

/-- The value is a time with a leap second within a minute. -/
def isStray : Value → Bool
  | time t => t.isStray
  | dateTime t => t.time.isStray
  | _ => false

/-- Storage gives the value back. It makes null of a NaN, and of a leap second within a minute the
second after it. -/
def isKept (v : Value) : Bool := !v.isNaN && !v.isStray

theorem same_self {v : Value} (h : v.isNaN = false) : v.same v = true := by
  cases v <;> simp_all [same, isNaN, Binary64.same_self]

theorem same_comm (v w : Value) : v.same w = w.same v := by
  cases v <;> cases w <;> simp [same, eq_comm, Binary64.same_comm]

/-- A value where there is one, and null where there is none. -/
def ofOption : Option Value → Value
  | some v => v
  | none => null

/-! ### Text -/

def boolText (b : Bool) : String := if b then "true" else "false"

/-- The value for reading by people. -/
def display : Value → String
  | null => "NULL"
  | bool b => boolText b
  | int n => toString n.toInt
  | float x => x.plainText
  | decimal written => written
  | text s => Text.quoted s
  | bytes b => "<" ++ toString b.length ++ " bytes>"
  | date d => d.text
  | time t => t.text
  | dateTime t => t.text

/-- The value with its kind, for diagnosis. -/
def diagnostic : Value → String
  | null => "Null"
  | bool b => "Bool(" ++ boolText b ++ ")"
  | int n => "Int(" ++ toString n.toInt ++ ")"
  | float x => "Float(" ++ x.scientificText ++ ")"
  | decimal written => "Decimal(" ++ Text.quoted written ++ ")"
  | text s => "Text(" ++ Text.quoted s ++ ")"
  | bytes b => "Bytes([" ++ Text.listed (b.map fun byte => toString byte.toNat) ++ "])"
  | date d => "Date(" ++ d.text ++ ")"
  | time t => "Time(" ++ t.text ++ ")"
  | dateTime t => "DateTime(" ++ t.joinedText ++ ")"

end Value

end IdentityMap
