import IdentityMap.OrderedMap
import IdentityMap.Value.Basic
/-!
# Records

The values of one entity's fields, listed by field name. A field without a value and a field that
holds null are different things.
-/

namespace IdentityMap

abbrev Record := OrderedMap String Value

namespace Record

/-- Entries alike in order, names and values. -/
def sameEntries : List (String × Value) → List (String × Value) → Bool
  | [], [] => true
  | (f, v) :: r, (g, w) :: s => f = g && v.same w && sameEntries r s
  | _, _ => false

/-- Both records hold the same fields with the same values. -/
def same (r s : Record) : Bool := sameEntries r.entries s.entries

/-- The field's value, null where the field has none. -/
def valueOf (r : Record) (field : String) : Value := (r.get? field).getD .null

/-- Some value of the record is no number. -/
def hasNaN (r : Record) : Bool := r.values.any Value.isNaN

/-- Storage gives every value of the record back. -/
def isKept (r : Record) : Bool := r.values.all Value.isKept

theorem same_self {r : Record} (h : r.hasNaN = false) : same r r = true := by
  have numbers : ∀ e ∈ r.entries, e.2.isNaN = false := by
    simpa [hasNaN, OrderedMap.values] using h
  unfold same
  generalize r.entries = entries at numbers ⊢
  induction entries with
  | nil => rfl
  | cons e rest ih =>
    obtain ⟨f, v⟩ := e
    have head : v.same v = true := Value.same_self (numbers _ List.mem_cons_self)
    simp [sameEntries, head, ih fun e he => numbers e (List.mem_cons_of_mem _ he)]

/-- The record with the kinds of its values, for diagnosis. -/
def diagnostic (r : Record) : String :=
  let fields := r.entries.map fun e => Text.quoted e.1 ++ ": " ++ e.2.diagnostic
  "Record \x7b values: \x7b" ++ Text.listed fields ++ "\x7d \x7d"

end Record

end IdentityMap
