import Mathlib
import IdentityMap.Text.Blank
import IdentityMap.Text.SnakeCase
/-!
# Snake case, character by character

The conversion goes through a text once and remembers of what it has passed only whether it ended
with a lower-case letter or a digit. Said of positions instead: every character is written in its
place, a capital in lower case, and an underscore stands before just those capitals that follow a
lower-case letter or a digit (`Text.snakeCase_spells`). What has been converted has no capital, so
it stays as it is, and since no letter is blank, only blank texts become blank.
-/

namespace IdentityMap.Text

/-! ### Letters -/

theorem bounds_of_isUpper {c : Char} (capital : c.isUpper = true) :
    65 ≤ c.toNat ∧ c.toNat ≤ 90 := by
  simpa [Char.isUpper, UInt32.le_iff_toNat_le] using capital

theorem bounds_of_isLower {c : Char} (small : c.isLower = true) :
    97 ≤ c.toNat ∧ c.toNat ≤ 122 := by
  simpa [Char.isLower, UInt32.le_iff_toNat_le] using small

theorem isBlank_of_isAlpha {c : Char} (letter : c.isAlpha = true) : isBlank c = false := by
  have bounds := (Bool.or_eq_true _ _ ▸ letter).imp bounds_of_isUpper bounds_of_isLower
  simp only [isBlank, Bool.or_eq_false_iff, Bool.and_eq_false_iff, decide_eq_false_iff_not,
    beq_eq_false_iff_ne]
  omega

/-! ### The rule -/

/-- A capital that follows this character begins a word. -/
def endsWord (c : Char) : Bool := c.isLower || c.isDigit

/-- At the position stands a capital that follows a lower-case letter or a digit. -/
def beginsWord (text : List Char) : (position : Nat) → Bool
  | 0 => false
  | i + 1 => text[i]?.any endsWord && text[i + 1]?.any Char.isUpper

/-- What is written for a character that stands at the position. -/
def spelledAt (text : List Char) (position : Nat) (c : Char) : List Char :=
  (if beginsWord text position then ['_'] else []) ++ [if c.isUpper then c.toLower else c]

theorem endsWord_of_isUpper {c : Char} (capital : c.isUpper = true) : endsWord c = false := by
  have bounds := bounds_of_isUpper capital
  refine Bool.eq_false_iff.2 fun ends => ?_
  rcases Bool.or_eq_true_iff.1 ends with small | digit
  · have := bounds_of_isLower small
    omega
  · have : 48 ≤ c.toNat ∧ c.toNat ≤ 57 := Char.isDigit_iff_toNat.1 digit
    omega

/-- Whether a word begins is seen from the end of what stands before. -/
theorem beginsWord_behind (before : List Char) (c : Char) (rest : List Char) :
    beginsWord (before ++ c :: rest) before.length
      = (before.getLast?.any endsWord && c.isUpper) := by
  rcases List.eq_nil_or_concat before with rfl | ⟨others, last, rfl⟩
  · rfl
  · simp [beginsWord]

/-- One step of the conversion writes what the rule says and passes the character on. -/
theorem snakeChars_cons (before : List Char) (c : Char) (rest : List Char) :
    snakeChars (before.getLast?.any endsWord) (c :: rest)
      = spelledAt (before ++ c :: rest) before.length c
        ++ snakeChars ((before ++ [c]).getLast?.any endsWord) rest := by
  rw [spelledAt, beginsWord_behind, snakeChars, List.getLast?_concat, Option.any_some]
  by_cases capital : c.isUpper = true
  · cases before.getLast?.any endsWord <;> simp [capital, endsWord_of_isUpper capital]
  · simp [capital, endsWord]

/-- The state of the conversion is all that the rule needs to know of the text before. -/
theorem snakeChars_behind (before text : List Char) :
    snakeChars (before.getLast?.any endsWord) text
      = (text.mapIdx fun i c => spelledAt (before ++ text) (before.length + i) c).flatten := by
  -- each step moves one character over to what stands before
  induction text generalizing before with
  | nil => rfl
  | cons c rest ih =>
    have later := ih (before ++ [c])
    simp only [List.append_assoc, List.singleton_append, List.length_append,
      List.length_singleton, Nat.add_assoc, Nat.add_comm 1] at later
    rw [snakeChars_cons, later, List.mapIdx_cons, List.flatten_cons]
    rfl

theorem toList_snakeCase (s : String) :
    (snakeCase s).toList = (s.toList.mapIdx (spelledAt s.toList)).flatten := by
  rw [snakeCase, String.toList_ofList]
  simpa using snakeChars_behind [] s.toList

/-! ### What follows from it -/

theorem mem_snakeCase {s : String} {c : Char} :
    c ∈ (snakeCase s).toList ↔ ∃ i d, s.toList[i]? = some d ∧ c ∈ spelledAt s.toList i d := by
  simp only [toList_snakeCase, List.mem_flatten, List.mem_mapIdx]
  constructor
  · rintro ⟨_, ⟨i, inside, rfl⟩, written⟩
    exact ⟨i, _, List.getElem?_eq_getElem inside, written⟩
  · rintro ⟨i, d, there, written⟩
    obtain ⟨inside, rfl⟩ := List.getElem?_eq_some_iff.1 there
    exact ⟨_, ⟨i, inside, rfl⟩, written⟩

theorem isUpper_of_mem_snakeCase {s : String} {c : Char} (written : c ∈ (snakeCase s).toList) :
    c.isUpper = false := by
  obtain ⟨i, d, -, written⟩ := mem_snakeCase.1 written
  rcases List.mem_append.1 written with mark | own
  · split at mark
    · obtain rfl := List.mem_singleton.1 mark
      decide
    · cases mark
  · obtain rfl := List.mem_singleton.1 own
    split
    · exact Char.isUpper_toLower_eq_false d
    · rename_i small
      exact Bool.eq_false_iff.2 small

theorem snakeChars_eq_self {inWord : Bool} {text : List Char}
    (small : ∀ c ∈ text, c.isUpper = false) : snakeChars inWord text = text := by
  induction text generalizing inWord with
  | nil => rfl
  | cons c rest ih =>
    rw [snakeChars, if_neg (by simp [small c List.mem_cons_self]),
      ih fun d later => small d (List.mem_cons_of_mem _ later)]

/-- A text without capitals is kept. -/
theorem snakeCase_eq_self {s : String} (small : ∀ c ∈ s.toList, c.isUpper = false) :
    snakeCase s = s := by
  rw [snakeCase, snakeChars_eq_self small, String.ofList_toList]

theorem blank_snakeCase (s : String) : blank (snakeCase s) = blank s := by
  by_cases capital : ∃ c ∈ s.toList, c.isUpper = true
  · -- a letter stands in both, as a capital and in lower case
    obtain ⟨c, listed, upper⟩ := capital
    obtain ⟨i, there⟩ := List.mem_iff_getElem?.1 listed
    have letter : c.isAlpha = true := by simp [Char.isAlpha, upper]
    have written : c.toLower ∈ (snakeCase s).toList :=
      mem_snakeCase.2 ⟨i, c, there, by simp [spelledAt, upper]⟩
    have lowered : c.toLower.isAlpha = true := by rw [Char.isAlpha_toLower_eq_isAlpha, letter]
    have before : blank s = false :=
      List.all_eq_false.2 ⟨c, listed, by simp [isBlank_of_isAlpha letter]⟩
    have after : blank (snakeCase s) = false :=
      List.all_eq_false.2 ⟨c.toLower, written, by simp [isBlank_of_isAlpha lowered]⟩
    rw [before, after]
  · have small : ∀ c ∈ s.toList, c.isUpper = false := fun c listed =>
      Bool.eq_false_iff.2 fun upper => capital ⟨c, listed, upper⟩
    rw [snakeCase_eq_self small]

/-- Every character of a text is written in its place and in order: an ASCII capital in lower case,
every other character as it is, and an underscore before just those capitals that follow an ASCII
lower-case letter or digit. The result has no capital, it is kept if it is converted once more, and
it is blank only for a blank text. -/
theorem snakeCase_spells (s : String) :
    (snakeCase s).toList = (s.toList.mapIdx fun i c => spelledAt s.toList i c).flatten ∧
    (∀ c ∈ (snakeCase s).toList, c.isUpper = false) ∧
    snakeCase (snakeCase s) = snakeCase s ∧
    (blank (snakeCase s) = true ↔ blank s = true) :=
  ⟨toList_snakeCase s, fun _ => isUpper_of_mem_snakeCase,
    snakeCase_eq_self fun _ => isUpper_of_mem_snakeCase, by rw [blank_snakeCase]⟩

example : snakeCase "HTTPServer2Go _IdÉtatéA" = "httpserver2_go _idÉtatéa" := by decide +kernel

end IdentityMap.Text
