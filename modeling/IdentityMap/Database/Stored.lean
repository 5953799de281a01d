import IdentityMap.Binary64.Rounding
import IdentityMap.Value.Basic
/-!
# Stored values

A database knows five classes of values. Truth values are stored as integers, and decimals, dates
and times as text. What is stored comes back in the class it was stored in. Stored values are
ordered by class first: null, numbers, texts, byte strings.
-/

namespace IdentityMap

inductive Stored
  | null
  | integer (n : Int64)
  | real (x : Binary64)
  | text (s : String)
  | blob (b : List UInt8)
deriving DecidableEq

instance : Inhabited Stored := ⟨.null⟩

/-- The form in which a value is stored. What is no number is stored as null. -/
def Value.toStored : Value → Stored
  | null => .null
  | bool b => .integer (if b then 1 else 0)
  | int n => .integer n
  | float x => if x.isNaN then .null else .real x
  | decimal written => .text written
  | text s => .text s
  | bytes b => .blob b
  | date d => .text d.text
  | time t => .text t.text
  | dateTime t => .text t.text

namespace Stored

/-- The value that comes back. -/
def toValue : Stored → Value
  | null => .null
  | integer n => .int n
  | real x => .float x
  | text s => .text s
  | blob b => .bytes b

/-- A number in units so small that every finite one is whole; the infinite ones lie beyond. -/
def scaled : Stored → Int
  | integer n => n.toInt * Nat.pow 2 1074
  | real x =>
    let size : Nat :=
      if x.isInfinite then Nat.pow 2 2200
      else x.magnitude.1 * Nat.pow 2 (x.magnitude.2 + 1074).toNat
    if x.negative then -size else size
  | _ => 0

def classRank : Stored → Nat
  | null => 0
  | integer _ | real _ => 1
  | text _ => 2
  | blob _ => 3

protected def compare (v w : Stored) : Ordering :=
  (compare v.classRank w.classRank).then
    (match v, w with
      | text a, text b => compare a b
      | blob a, blob b => compareOfLessAndEq a b
      | integer a, integer b => compare a b
      | _, _ => compare v.scaled w.scaled)

/-- The comparison of a condition: null is equal to nothing. -/
def matchesKey (v w : Stored) : Bool := v ≠ null && v.compare w = .eq

end Stored

end IdentityMap
