import IdentityMap.Text.Hexadecimal
import IdentityMap.Value.Basic
/-!
# Identity keys

A key names one instance among those of its entity type. It is an integer, a text or an identifier
of 16 bytes; the kind of the key is the kind of the value it comes from, whatever the value's
content looks like. Keys are ordered by kind first: integers, texts, identifiers.
-/

namespace IdentityMap

abbrev Uuid := Vector UInt8 16

/-- The identifier of 16 bytes; no other number of bytes makes one. -/
def Uuid.ofBytes? (bytes : List UInt8) : Option Uuid :=
  if h : bytes.length = 16 then some ⟨bytes.toArray, h⟩ else none

@[simp] theorem Uuid.ofBytes?_toList (u : Uuid) : Uuid.ofBytes? u.toList = some u := by
  simp [Uuid.ofBytes?, Vector.toList]

inductive EntityKey
  | int (n : Int64)
  | text (s : String)
  | uuid (u : Uuid)
deriving DecidableEq

namespace EntityKey

protected def compare : EntityKey → EntityKey → Ordering
  | int a, int b => Ord.compare a b
  | int _, _ => .lt
  | text _, int _ => .gt
  | text a, text b => Ord.compare a b
  | text _, uuid _ => .lt
  | uuid a, uuid b => Ord.compare a b
  | uuid _, _ => .gt

instance : Ord EntityKey := ⟨EntityKey.compare⟩

theorem compare_def (a b : EntityKey) : compare a b = EntityKey.compare a b := rfl

instance : Std.OrientedOrd EntityKey where
  eq_swap {a b} := by
    cases a <;> cases b <;>
      simp only [compare_def, EntityKey.compare, Ordering.swap_lt, Ordering.swap_gt] <;>
      exact Std.OrientedCmp.eq_swap

instance : Std.TransOrd EntityKey where
  isLE_trans {a b c} := by
    cases a <;> cases b <;> cases c <;>
      simp only [compare_def, EntityKey.compare, Ordering.isLE_lt, Ordering.isLE_gt,
        Bool.false_eq_true, false_implies, imp_self, implies_true] <;>
      exact Std.TransCmp.isLE_trans

instance : Std.LawfulEqOrd EntityKey where
  eq_of_compare {a b} := by
    cases a <;> cases b <;>
      simp only [compare_def, EntityKey.compare, reduceCtorEq, false_implies, int.injEq,
        text.injEq, uuid.injEq] <;>
      exact Std.LawfulEqCmp.eq_of_compare
  compare_self {a} := by
    cases a with
    | int n => exact (Std.ReflOrd.compare_self : Ord.compare n n = .eq)
    | text s => exact (Std.ReflOrd.compare_self : Ord.compare s s = .eq)
    | uuid u => exact (Std.ReflOrd.compare_self : Ord.compare u u = .eq)

/-- The key that a field value stands for, if it can identify an instance. -/
def ofValue? : Value → Option EntityKey
  | .int n => some (int n)
  | .text s => some (text s)
  | .bytes b => (Uuid.ofBytes? b).map uuid
  | _ => none

/-- The key as a field value. -/
def toValue : EntityKey → Value
  | int n => .int n
  | text s => .text s
  | uuid u => .bytes u.toList

def asInt? : EntityKey → Option Int64
  | int n => some n
  | _ => none

@[simp] theorem ofValue?_toValue (k : EntityKey) : ofValue? k.toValue = some k := by
  cases k <;> simp [ofValue?, toValue]

/-- The 16 bytes in hexadecimal, in groups of 4, 2, 2, 2 and 6. -/
def uuidText (u : Uuid) : String :=
  let group (start count : Nat) : List Char := Text.hexBytes ((u.toList.drop start).take count)
  String.ofList
    (group 0 4 ++ '-' :: group 4 2 ++ '-' :: group 6 2 ++ '-' :: group 8 2 ++ '-' :: group 10 6)

def display : EntityKey → String
  | int n => toString n.toInt
  | text s => s
  | uuid u => uuidText u

/-- The key with its kind, for diagnosis. -/
def diagnostic : EntityKey → String
  | int n => "Int(" ++ toString n.toInt ++ ")"
  | text s => "Text(" ++ Text.quoted s ++ ")"
  | uuid u => "Uuid(" ++ uuidText u ++ ")"

end EntityKey

end IdentityMap
