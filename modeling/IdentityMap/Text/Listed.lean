/-!
# Lists in text
-/

namespace IdentityMap.Text

/-- The parts with a comma and a space between them. -/
def listed (parts : List String) : String := ", ".intercalate parts

end IdentityMap.Text
