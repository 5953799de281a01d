import IdentityMap.Calendar.Pattern
/-!
# Written dates and times read back

Every part of a pattern reads what it has written, whatever follows, as long as a number that may
have more digits is not followed by one. So a date reads back as itself (`Date.ofText?_text`), and a
time as the one that its text shows (`TimeOfDay.ofText?_text`, `DateTime.ofText?_text`). That is the
time itself, leap seconds at the end of a minute included; a leap second within a minute is written
like the second after it, and reads back as this one.
-/

namespace IdentityMap.Calendar

/-! ### Digits -/

theorem isDigit_of_mem_padded {width n : Nat} {c : Char} (member : c ∈ padded width n) :
    c.isDigit = true := by
  rcases List.mem_append.1 member with zero | digit
  · rw [(List.mem_replicate.1 zero).2]
    rfl
  · exact Nat.isDigit_of_mem_toDigits (by decide) (by decide) digit

theorem digitsValue_padded (width n : Nat) : digitsValue (padded width n) = n := by
  unfold digitsValue padded
  rw [Nat.ofDigitChars_append, Nat.ofDigitChars_replicate_zero, Nat.mul_zero,
    Nat.ofDigitChars_ten_toDigits]

theorem padded_ne_nil (width n : Nat) : padded width n ≠ [] :=
  List.append_ne_nil_of_right_ne_nil _ Nat.toDigits_ne_nil

theorem length_padded {width n : Nat} (some : 0 < width) (fits : n < Nat.pow 10 width) :
    (padded width n).length = width := by
  have short := (Nat.length_toDigits_le_iff (b := 10) (by decide) some).2 fits
  simp only [padded, List.length_append, List.length_replicate]
  omega

/-- No digit follows. -/
def StopsDigits (rest : List Char) : Prop := ∀ c ∈ rest.head?, c.isDigit = false

theorem splitDigits_append {limit : Nat} {digits rest : List Char}
    (all : ∀ c ∈ digits, c.isDigit = true) (short : digits.length ≤ limit)
    (stops : digits.length = limit ∨ StopsDigits rest) :
    splitDigits limit (digits ++ rest) = (digits, rest) := by
  have none : (rest.take (limit - digits.length)).takeWhile Char.isDigit = [] := by
    rcases stops with full | stops
    · rw [full, Nat.sub_self, List.take_zero, List.takeWhile_nil]
    · cases rest with
      | nil => rw [List.take_nil, List.takeWhile_nil]
      | cons c rest =>
        have other : c.isDigit = false := stops c rfl
        cases limit - digits.length <;> simp [other]
  have front : ((digits ++ rest).take limit).takeWhile Char.isDigit = digits := by
    rw [List.take_append, List.take_of_length_le short, List.takeWhile_append_of_pos all, none,
      List.append_nil]
  simp [splitDigits, front]

theorem readDigits_padded {limit width n : Nat} {rest : List Char}
    (short : (padded width n).length ≤ limit)
    (stops : (padded width n).length = limit ∨ StopsDigits rest) :
    readDigits limit (padded width n ++ rest) = some (n, rest) := by
  have split := splitDigits_append (fun _ => isDigit_of_mem_padded) short stops
  unfold readDigits
  rw [split]
  split
  · rename_i none
    exact absurd (Prod.mk.inj none).1 (padded_ne_nil width n)
  · rename_i read
    obtain ⟨rfl, rfl⟩ := Prod.mk.inj read
    rw [digitsValue_padded]

/-! ### Numbers -/

theorem isBlank_of_isDigit {c : Char} (digit : c.isDigit = true) : Text.isBlank c = false := by
  have bounds : 48 ≤ c.toNat ∧ c.toNat ≤ 57 := Char.isDigit_iff_toNat.1 digit
  simp only [Text.isBlank, Bool.or_eq_false_iff, Bool.and_eq_false_iff, decide_eq_false_iff_not,
    beq_eq_false_iff_ne]
  omega

theorem skipBlank_cons {c : Char} {rest : List Char} (shown : Text.isBlank c = false) :
    skipBlank (c :: rest) = c :: rest := by
  simp [skipBlank, shown]

/-- What is padded begins with a digit. -/
theorem padded_eq_cons (width n : Nat) : ∃ c digits, padded width n = c :: digits ∧
    c.isDigit = true := by
  obtain ⟨c, digits, same⟩ := List.exists_cons_of_ne_nil (padded_ne_nil width n)
  exact ⟨c, digits, same, isDigit_of_mem_padded (n := n) (same ▸ List.mem_cons_self)⟩

theorem skipBlank_padded (width n : Nat) (rest : List Char) :
    skipBlank (padded width n ++ rest) = padded width n ++ rest := by
  obtain ⟨c, digits, same, digit⟩ := padded_eq_cons width n
  rw [same]
  exact skipBlank_cons (isBlank_of_isDigit digit)

theorem readTwo_padded {n : Nat} (fits : n < 100) (set : Nat → Fields) (rest : List Char) :
    readTwo (padded 2 n ++ rest) set = some (set n, rest) := by
  have length : (padded 2 n).length = 2 := length_padded (by decide) fits
  unfold readTwo
  rw [skipBlank_padded, readDigits_padded (Nat.le_of_eq length) (.inl length)]
  rfl

theorem readYear_written {year : Int} {rest : List Char} (stops : StopsDigits rest) :
    readYear (skipBlank (writtenYear year ++ rest)) = some (year, rest) := by
  unfold writtenYear
  split
  · rename_i negative
    rw [List.cons_append, skipBlank_cons (by decide), readYear,
      readDigits_padded (by simp) (.inr stops)]
    simp only [Option.map_some, Option.some.injEq, Prod.mk.injEq, and_true]
    omega
  · rename_i natural
    split
    · rw [List.cons_append, skipBlank_cons (by decide), readYear,
        readDigits_padded (by simp) (.inr stops)]
      simp only [Option.map_some, Option.some.injEq, Prod.mk.injEq, and_true]
      omega
    · have small : year.toNat < Nat.pow 10 4 := by
        have size : Nat.pow 10 4 = 10000 := rfl
        omega
      have length : (padded 4 year.toNat).length = 4 := length_padded (by decide) small
      obtain ⟨c, digits, same, digit⟩ := padded_eq_cons 4 year.toNat
      have unsigned : readYear (padded 4 year.toNat ++ rest)
          = (readDigits 4 (padded 4 year.toNat ++ rest)).map fun read =>
            ((read.1 : Int), read.2) := by
        rw [same, List.cons_append]
        unfold readYear
        split
        · rename_i minus
          rw [(List.cons.inj minus).1] at digit
          cases digit
        · rename_i plus
          rw [(List.cons.inj plus).1] at digit
          cases digit
        · rfl
      rw [skipBlank_padded, unsigned, readDigits_padded (Nat.le_of_eq length) (.inl length)]
      simp only [Option.map_some, Option.some.injEq, Prod.mk.injEq, and_true]
      omega

theorem readFraction_padded {width n : Nat} (some : 0 < width) (limit : width ≤ 9)
    (fits : n < Nat.pow 10 width) :
    readFraction (padded width n) = .some (n * Nat.pow 10 (9 - width), []) := by
  have length := length_padded some fits
  have split : splitDigits 9 (padded width n) = (padded width n, []) := by
    have split : splitDigits 9 (padded width n ++ []) = (padded width n, []) :=
      splitDigits_append (fun _ => isDigit_of_mem_padded) (by omega)
        (.inr fun c none => by cases none)
    rwa [List.append_nil] at split
  unfold readFraction
  rw [split]
  split
  · rename_i none
    exact absurd (Prod.mk.inj none).1 (padded_ne_nil width n)
  · rename_i read
    obtain ⟨rfl, rfl⟩ := Prod.mk.inj read
    simp [digitsValue_padded, length]

/-! ### Patterns -/

/-- A part that reads what it has written leaves the text to the parts after it. -/
theorem readFront_cons {part : Part} {parts : Pattern} {f f' g : Fields} {rest : List Char}
    (reads : part.read f (part.write g ++ rest) = some (f', rest)) :
    Pattern.readFront (part :: parts) f (part.write g ++ rest)
      = Pattern.readFront parts f' rest := by
  rw [Pattern.readFront, reads]

theorem readFront_append (p q : Pattern) (f : Fields) (text : List Char) :
    Pattern.readFront (p ++ q) f text =
      (Pattern.readFront p f text).bind fun (f', rest) => Pattern.readFront q f' rest := by
  induction p generalizing f text with
  | nil => rfl
  | cons part parts ih =>
    rw [List.cons_append, Pattern.readFront, Pattern.readFront]
    split
    · exact ih _ _
    · rfl

section Parts

variable {f g : Fields} {rest : List Char}

theorem read_mark (c : Char) :
    (Part.mark c).read f ((Part.mark c).write g ++ rest) = some (f, rest) := by
  simp [Part.read, Part.write]

theorem read_year (stops : StopsDigits rest) : Part.year.read f (Part.year.write g ++ rest)
    = some ({ f with year := g.year }, rest) := by
  simp only [Part.read]
  rw [Part.write, readYear_written stops]
  rfl

theorem read_month (fits : g.month < 100) : Part.month.read f (Part.month.write g ++ rest)
    = some ({ f with month := g.month }, rest) :=
  readTwo_padded fits (fun n => { f with month := n }) rest

theorem read_day (fits : g.day < 100) : Part.day.read f (Part.day.write g ++ rest)
    = some ({ f with day := g.day }, rest) :=
  readTwo_padded fits (fun n => { f with day := n }) rest

theorem read_hour (fits : g.hour < 100) : Part.hour.read f (Part.hour.write g ++ rest)
    = some ({ f with hour := g.hour }, rest) :=
  readTwo_padded fits (fun n => { f with hour := n }) rest

theorem read_minute (fits : g.minute < 100) : Part.minute.read f (Part.minute.write g ++ rest)
    = some ({ f with minute := g.minute }, rest) :=
  readTwo_padded fits (fun n => { f with minute := n }) rest

theorem read_second (fits : g.second < 100) : Part.second.read f (Part.second.write g ++ rest)
    = some ({ f with second := g.second }, rest) :=
  readTwo_padded fits (fun n => { f with second := n }) rest

/-- A fraction ends its text, and a missing one leaves the nanoseconds at zero. -/
theorem read_fraction (whole : f.nanosecond = 0) (fits : g.nanosecond < nanosecondLimit) :
    Part.fraction.read f (Part.fraction.write g)
      = some ({ f with nanosecond := g.nanosecond }, []) := by
  unfold nanosecondLimit at fits
  have digits {width n : Nat} (limit unit : Nat) (positive : 0 < width) (short : width ≤ 9)
      (size : Nat.pow 10 width = limit) (scale : Nat.pow 10 (9 - width) = unit) (fits : n < limit)
      (scaled : n * unit = g.nanosecond) : Part.fraction.read f ('.' :: padded width n)
        = some ({ f with nanosecond := g.nanosecond }, []) := by
    have read := readFraction_padded positive short (size.symm ▸ fits)
    rw [scale, scaled] at read
    simp [Part.read, read]
  simp only [Part.write, writtenFraction]
  split
  · rename_i none
    rw [none, ← whole]
    rfl
  · split
    · exact digits 1000 1000000 (by decide) (by decide) rfl rfl (by omega) (by omega)
    · split
      · exact digits 1000000 1000 (by decide) (by decide) rfl rfl (by omega) (by omega)
      · exact digits 1000000000 1 (by decide) (by decide) rfl rfl (by omega) (by omega)

/-- A date reads back, whatever follows. -/
theorem readFront_date (month : g.month < 100) (day : g.day < 100) :
    datePattern.readFront f (datePattern.write g ++ rest)
      = some ({ f with year := g.year, month := g.month, day := g.day }, rest) := by
  have stops (text : List Char) : StopsDigits (Part.write g (.mark '-') ++ text) := by
    intro c next
    cases next
    rfl
  simp only [datePattern, Pattern.write, List.flatMap_cons, List.flatMap_nil, List.append_nil,
    List.append_assoc]
  rw [readFront_cons (read_year (stops _)), readFront_cons (read_mark _),
    readFront_cons (read_month month), readFront_cons (read_mark _), readFront_cons (read_day day)]
  rfl

/-- A time reads back at the end of a text. -/
theorem readFront_time (whole : f.nanosecond = 0) (hour : g.hour < 100) (minute : g.minute < 100)
    (second : g.second < 100) (fraction : g.nanosecond < nanosecondLimit) :
    timePattern.readFront f (timePattern.write g) = some ({ f with
      hour := g.hour, minute := g.minute, second := g.second,
      nanosecond := g.nanosecond }, []) := by
  simp only [timePattern, Pattern.write, List.flatMap_cons, List.flatMap_nil, List.append_nil]
  rw [readFront_cons (read_hour hour), readFront_cons (read_mark _),
    readFront_cons (read_minute minute), readFront_cons (read_mark _),
    readFront_cons (read_second second)]
  have last := read_fraction
    (f := { f with hour := g.hour, minute := g.minute, second := g.second }) whole fraction
  simp only [Pattern.readFront]
  rw [last]

end Parts

/-! ### Dates and times -/

theorem Date.fields_date? (d : Date) (f : Fields) : (d.fields f).date? = some d := d.of?_self

/-- The time that the text of a time shows: a leap second within a minute looks like the second
after it. -/
def TimeOfDay.shown (t : TimeOfDay) : TimeOfDay :=
  if stray : nanosecondLimit ≤ t.nanosecond ∧ t.second ≠ 59 then
    { t with
      second := t.second + 1
      nanosecond := t.nanosecond - nanosecondLimit
      inSeconds := by have := t.inSeconds; omega
      inFraction := by have := t.inFraction; omega }
  else t

theorem TimeOfDay.shown_eq_iff {t : TimeOfDay} : t.shown = t ↔ t.isStray = false := by
  rw [isStray_eq_false_iff]
  unfold shown
  split
  · rename_i stray
    constructor
    · intro same
      have second := congrArg TimeOfDay.second same
      exact absurd second (Nat.succ_ne_self _)
    · omega
  · rename_i regular
    exact iff_of_true rfl (by omega)

def DateTime.shown (t : DateTime) : DateTime := { t with time := t.time.shown }

theorem DateTime.shown_eq_iff {t : DateTime} : t.shown = t ↔ t.time.isStray = false := by
  rw [← TimeOfDay.shown_eq_iff]
  constructor
  · exact congrArg DateTime.time
  · intro same
    rw [shown, same]

theorem TimeOfDay.fields_time? (t : TimeOfDay) (f : Fields) :
    (t.fields f).time? = some t.shown := by
  have bound := t.inSeconds
  have fraction := t.inFraction
  unfold TimeOfDay.fields TimeOfDay.shown
  split
  · rename_i regular
    have second : t.second ≠ 60 := by omega
    rw [dif_neg (by omega)]
    simp [Fields.time?, second, of?_self (isStray_eq_false_iff.2 (.inl regular))]
  · rename_i leap
    by_cases last : t.second = 59
    · have whole : nanosecondLimit + (t.nanosecond - nanosecondLimit) = t.nanosecond := by omega
      have same := of?_self (isStray_eq_false_iff.2 (.inr last))
      rw [last] at same
      rw [dif_neg (by omega)]
      simp [Fields.time?, last, whole, same]
    · have next : t.second + 1 < 60 := by omega
      have rest : t.nanosecond - nanosecondLimit < nanosecondLimit := by omega
      rw [dif_pos ⟨by omega, last⟩]
      simp [Fields.time?, TimeOfDay.of?, t.inHours, t.inMinutes, last, next, rest]

/-- A time that is read is one that a text can show. -/
theorem Fields.isStray_time? {f : Fields} {t : TimeOfDay} (read : f.time? = some t) :
    t.isStray = false := by
  unfold Fields.time? at read
  split at read <;> exact TimeOfDay.isStray_of? read

theorem TimeOfDay.isStray_ofText? {text : String} {t : TimeOfDay} (read : ofText? text = some t) :
    t.isStray = false := by
  obtain ⟨f, -, made⟩ := Option.bind_eq_some_iff.1 read
  exact Fields.isStray_time? made

theorem DateTime.isStray_ofText? {text : String} {t : DateTime} (read : ofText? text = some t) :
    t.time.isStray = false := by
  have joined {pattern : Pattern}
      (read : (pattern.read text).bind Fields.dateTime? = some t) : t.time.isStray = false := by
    obtain ⟨f, -, made⟩ := Option.bind_eq_some_iff.1 read
    unfold Fields.dateTime? at made
    split at made <;> cases made
    exact Fields.isStray_time? ‹_›
  rcases Option.or_eq_some_iff.1 read with spaced | ⟨-, spelled⟩
  · exact joined spaced
  · exact joined spelled

/-- The numbers of a written time are small enough for their places. -/
theorem TimeOfDay.fields_bounds (t : TimeOfDay) (f : Fields) :
    (t.fields f).hour < 100 ∧ (t.fields f).minute < 100 ∧ (t.fields f).second < 100 ∧
      (t.fields f).nanosecond < nanosecondLimit := by
  have hour := t.inHours
  have minute := t.inMinutes
  have second := t.inSeconds
  have fraction := t.inFraction
  unfold TimeOfDay.fields
  split <;> refine ⟨?_, ?_, ?_, ?_⟩ <;> simp only [nanosecondLimit] at * <;> omega

theorem Date.bounds (d : Date) : d.month < 100 ∧ d.day < 100 := by
  have month := d.inMonths
  have day := d.inDays
  have longest : daysInMonth d.year d.month ≤ 31 := by
    unfold daysInMonth
    split
    · split <;> decide
    · split <;> decide
  omega

theorem Date.ofText?_text (d : Date) : Date.ofText? d.text = some d := by
  obtain ⟨month, day⟩ := d.bounds
  have read : datePattern.readFront {} (datePattern.write (d.fields {}) ++ []) = _ :=
    readFront_date month day
  rw [List.append_nil] at read
  simp only [Date.ofText?, Date.text, Pattern.read, String.toList_ofList, read]
  exact d.fields_date? {}

theorem TimeOfDay.ofText?_text (t : TimeOfDay) : TimeOfDay.ofText? t.text = some t.shown := by
  obtain ⟨hour, minute, second, fraction⟩ := t.fields_bounds {}
  have read := readFront_time (f := {}) rfl hour minute second fraction
  simp only [TimeOfDay.ofText?, TimeOfDay.text, Pattern.read, String.toList_ofList, read]
  rw [← t.fields_time? {}]
  unfold TimeOfDay.fields
  split <;> rfl

theorem DateTime.ofText?_text (t : DateTime) : DateTime.ofText? t.text = some t.shown := by
  obtain ⟨month, day⟩ := t.date.bounds
  obtain ⟨hour, minute, second, fraction⟩ := t.time.fields_bounds {}
  let written := t.date.fields (t.time.fields {})
  let dated : Fields := t.date.fields {}
  have date (rest : List Char) : datePattern.readFront {} (datePattern.write written ++ rest)
      = some (dated, rest) := readFront_date (g := written) month day
  have time : timePattern.readFront dated (timePattern.write written) = some (written, []) := by
    rw [readFront_time (g := written) rfl hour minute second fraction]
    rfl
  -- the time begins with a digit, so the blank before it is all that is skipped
  have blank : skipBlank (' ' :: timePattern.write written) = timePattern.write written := by
    have shown : timePattern.write written = padded 2 written.hour
        ++ Pattern.write [.mark ':', .minute, .mark ':', .second, .fraction] written := rfl
    rw [shown]
    exact (List.dropWhile_cons_of_pos (by decide)).trans (skipBlank_padded ..)
  have read : spacedPattern.read t.text = some written := by
    have text : t.text.toList
        = datePattern.write written ++ (' ' :: timePattern.write written) := by
      simp only [DateTime.text, spacedPattern, Pattern.write, String.toList_ofList,
        List.flatMap_append, List.flatMap_cons]
      rfl
    unfold Pattern.read
    rw [text, spacedPattern, readFront_append, date, Option.bind_some]
    simp only [Pattern.readFront, Part.read, blank]
    rw [time]
  have whole : written.dateTime? = some t.shown := by
    have day := t.date.fields_date? (t.time.fields {})
    have clock : written.time? = some t.time.shown := t.time.fields_time? {}
    unfold Fields.dateTime?
    rw [show written.date? = some t.date from day, clock]
    rfl
  simp only [DateTime.ofText?, read, Option.bind_some, whole, Option.some_or]

end IdentityMap.Calendar
