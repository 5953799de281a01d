/-!
# Dates and times of day

Days of the Gregorian calendar, carried back before its adoption with a year zero, and times of day
to the nanosecond. A leap second is kept inside the second before it: its nanoseconds start at one
thousand million. It ends a minute in the numbers that somebody gives, but calculation can put one
behind any second (`TimeOfDay.isStray`).
-/

namespace IdentityMap.Calendar

def isLeapYear (year : Int) : Bool :=
  year % 4 = 0 && (year % 100 ≠ 0 || year % 400 = 0)

def daysInMonth (year : Int) (month : Nat) : Nat :=
  if month = 2 then (if isLeapYear year then 29 else 28)
  else if month = 4 ∨ month = 6 ∨ month = 9 ∨ month = 11 then 30
  else 31

def firstYear : Int := -262143

def lastYear : Int := 262142

structure Date where
  year : Int
  month : Nat
  day : Nat
  inYears : firstYear ≤ year ∧ year ≤ lastYear
  inMonths : 1 ≤ month ∧ month ≤ 12
  inDays : 1 ≤ day ∧ day ≤ daysInMonth year month
deriving DecidableEq, Repr

/-- How many nanoseconds a second has. -/
def nanosecondLimit : Nat := 1000000000

structure TimeOfDay where
  hour : Nat
  minute : Nat
  second : Nat
  nanosecond : Nat
  inHours : hour < 24
  inMinutes : minute < 60
  inSeconds : second < 60
  inFraction : nanosecond < 2 * nanosecondLimit
deriving DecidableEq, Repr

/-- A leap second that does not end its minute. -/
def TimeOfDay.isStray (t : TimeOfDay) : Bool := nanosecondLimit ≤ t.nanosecond && t.second ≠ 59

structure DateTime where
  date : Date
  time : TimeOfDay
deriving DecidableEq, Repr

/-- The day with these numbers, if the calendar has it. -/
def Date.of? (year : Int) (month day : Nat) : Option Date :=
  if h : (firstYear ≤ year ∧ year ≤ lastYear) ∧ (1 ≤ month ∧ month ≤ 12)
      ∧ (1 ≤ day ∧ day ≤ daysInMonth year month) then
    some ⟨year, month, day, h.1, h.2.1, h.2.2⟩
  else
    none

/-- The time with these numbers, if a day has it. A leap second has to end its minute. -/
def TimeOfDay.of? (hour minute second nanosecond : Nat) : Option TimeOfDay :=
  if h : hour < 24 ∧ minute < 60 ∧ second < 60
      ∧ (nanosecond < nanosecondLimit ∨ (second = 59 ∧ nanosecond < 2 * nanosecondLimit)) then
    some ⟨hour, minute, second, nanosecond, h.1, h.2.1, h.2.2.1, by omega⟩
  else
    none

theorem Date.of?_self (d : Date) : Date.of? d.year d.month d.day = some d := by
  simp [Date.of?, d.inYears, d.inMonths, d.inDays]

theorem TimeOfDay.isStray_eq_false_iff {t : TimeOfDay} :
    t.isStray = false ↔ t.nanosecond < nanosecondLimit ∨ t.second = 59 := by
  simp [isStray, Classical.or_iff_not_imp_left]

theorem TimeOfDay.of?_self {t : TimeOfDay} (regular : t.isStray = false) :
    TimeOfDay.of? t.hour t.minute t.second t.nanosecond = some t := by
  have fraction := isStray_eq_false_iff.1 regular
  simp [TimeOfDay.of?, t.inHours, t.inMinutes, t.inSeconds, t.inFraction, fraction]

theorem TimeOfDay.isStray_of? {hour minute second nanosecond : Nat} {t : TimeOfDay}
    (made : TimeOfDay.of? hour minute second nanosecond = some t) : t.isStray = false := by
  unfold TimeOfDay.of? at made
  split at made <;> cases made
  rename_i given
  exact isStray_eq_false_iff.2 (given.2.2.2.imp_right And.left)

end IdentityMap.Calendar
