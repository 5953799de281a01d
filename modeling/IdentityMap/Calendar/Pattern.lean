import IdentityMap.Calendar.Basic
import IdentityMap.Text.Blank
/-!
# Written dates and times

A pattern lists the parts of a written date or time. One pattern serves both ways: `write` fills
the parts in, `read` takes them off the front of a text. Reading is the wider of the two: it admits
white space before a number and numbers of fewer digits.
-/

namespace IdentityMap.Calendar

/-- The numbers that a written date or time shows. The leap second shows as second 60. -/
structure Fields where
  year : Int := 0
  month : Nat := 0
  day : Nat := 0
  hour : Nat := 0
  minute : Nat := 0
  second : Nat := 0
  nanosecond : Nat := 0
deriving DecidableEq, Repr

inductive Part
  | year
  | month
  | day
  | hour
  | minute
  | second
  | fraction
  | space
  | mark (c : Char)
deriving DecidableEq, Repr

abbrev Pattern := List Part

/-! ### Writing -/

/-- A number of at least `width` digits. -/
def padded (width n : Nat) : List Char :=
  let digits := Nat.toDigits 10 n
  List.replicate (width - digits.length) '0' ++ digits

/-- Four digits or more; outside the years 0 to 9999 with a sign. -/
def writtenYear (year : Int) : List Char :=
  if year < 0 then '-' :: padded 4 year.natAbs
  else if 9999 < year then '+' :: padded 4 year.toNat
  else padded 4 year.toNat

/-- Three, six or nine digits after a point, as many as are needed; nothing for a whole second. -/
def writtenFraction (nanosecond : Nat) : List Char :=
  if nanosecond = 0 then []
  else if nanosecond % 1000000 = 0 then '.' :: padded 3 (nanosecond / 1000000)
  else if nanosecond % 1000 = 0 then '.' :: padded 6 (nanosecond / 1000)
  else '.' :: padded 9 nanosecond

def Part.write (fields : Fields) : Part → List Char
  | .year => writtenYear fields.year
  | .month => padded 2 fields.month
  | .day => padded 2 fields.day
  | .hour => padded 2 fields.hour
  | .minute => padded 2 fields.minute
  | .second => padded 2 fields.second
  | .fraction => writtenFraction fields.nanosecond
  | .space => [' ']
  | .mark c => [c]

def Pattern.write (pattern : Pattern) (fields : Fields) : List Char :=
  pattern.flatMap (Part.write fields)

/-! ### Reading -/

def digitsValue (digits : List Char) : Nat := Nat.ofDigitChars 10 digits 0

/-- The digits at the front of a text, `limit` at most, and what follows them. -/
def splitDigits (limit : Nat) (text : List Char) : List Char × List Char :=
  let digits := (text.take limit).takeWhile Char.isDigit
  (digits, text.drop digits.length)

/-- A number of one to `limit` digits at the front of a text. -/
def readDigits (limit : Nat) (text : List Char) : Option (Nat × List Char) :=
  match splitDigits limit text with
  | ([], _) => none
  | (digits, rest) => some (digitsValue digits, rest)

def skipBlank (text : List Char) : List Char := text.dropWhile Text.isBlank

/-- A year: with a sign any number of digits, without one at most four. -/
def readYear (text : List Char) : Option (Int × List Char) :=
  match text with
  | '-' :: rest => (readDigits rest.length rest).map fun (n, rest) => (-(n : Int), rest)
  | '+' :: rest => (readDigits rest.length rest).map fun (n, rest) => ((n : Int), rest)
  | _ => (readDigits 4 text).map fun (n, rest) => ((n : Int), rest)

/-- The digits after a point, counted in nanoseconds; digits after the ninth are passed over. -/
def readFraction (text : List Char) : Option (Nat × List Char) :=
  match splitDigits 9 text with
  | ([], _) => none
  | (digits, rest) =>
    some (digitsValue digits * Nat.pow 10 (9 - digits.length), rest.dropWhile Char.isDigit)

def readTwo (text : List Char) (set : Nat → Fields) : Option (Fields × List Char) :=
  (readDigits 2 (skipBlank text)).map fun (n, rest) => (set n, rest)

def Part.read (part : Part) (fields : Fields) (text : List Char) : Option (Fields × List Char) :=
  match part with
  | .year =>
    (readYear (skipBlank text)).map fun (n, rest) => ({ fields with year := n }, rest)
  | .month => readTwo text fun n => { fields with month := n }
  | .day => readTwo text fun n => { fields with day := n }
  | .hour => readTwo text fun n => { fields with hour := n }
  | .minute => readTwo text fun n => { fields with minute := n }
  | .second => readTwo text fun n => { fields with second := n }
  | .fraction =>
    match text with
    | '.' :: rest =>
      (readFraction rest).map fun (n, rest) => ({ fields with nanosecond := n }, rest)
    | _ => some (fields, text)
  | .space => some (fields, skipBlank text)
  | .mark c =>
    match text with
    | d :: rest => if d = c then some (fields, rest) else none
    | [] => none

/-- Read the parts in order; what follows them is handed back. -/
def Pattern.readFront : Pattern → Fields → List Char → Option (Fields × List Char)
  | [], fields, text => some (fields, text)
  | part :: parts, fields, text =>
    match part.read fields text with
    | some (fields, rest) => Pattern.readFront parts fields rest
    | none => none

/-- Read a text that holds the parts and nothing else. -/
def Pattern.read (pattern : Pattern) (text : String) : Option Fields :=
  match pattern.readFront {} text.toList with
  | some (fields, []) => some fields
  | _ => none

/-! ### Dates and times as fields -/

def Date.fields (d : Date) (rest : Fields) : Fields :=
  { rest with year := d.year, month := d.month, day := d.day }

def TimeOfDay.fields (t : TimeOfDay) (rest : Fields) : Fields :=
  if t.nanosecond < nanosecondLimit then
    { rest with hour := t.hour, minute := t.minute, second := t.second, nanosecond := t.nanosecond }
  else
    { rest with
      hour := t.hour, minute := t.minute, second := t.second + 1,
      nanosecond := t.nanosecond - nanosecondLimit }

def Fields.date? (f : Fields) : Option Date := Date.of? f.year f.month f.day

def Fields.time? (f : Fields) : Option TimeOfDay :=
  if f.second = 60 then TimeOfDay.of? f.hour f.minute 59 (nanosecondLimit + f.nanosecond)
  else TimeOfDay.of? f.hour f.minute f.second f.nanosecond

def Fields.dateTime? (f : Fields) : Option DateTime :=
  match f.date?, f.time? with
  | some date, some time => some ⟨date, time⟩
  | _, _ => none

/-! ### The written forms -/

def datePattern : Pattern := [.year, .mark '-', .month, .mark '-', .day]

def timePattern : Pattern := [.hour, .mark ':', .minute, .mark ':', .second, .fraction]

/-- Date and time with a space between them. -/
def spacedPattern : Pattern := datePattern ++ .space :: timePattern

/-- Date and time with the letter `T` between them. -/
def joinedPattern : Pattern := datePattern ++ .mark 'T' :: timePattern

def Date.text (d : Date) : String := String.ofList (datePattern.write (d.fields {}))

def TimeOfDay.text (t : TimeOfDay) : String := String.ofList (timePattern.write (t.fields {}))

def DateTime.text (t : DateTime) : String :=
  String.ofList (spacedPattern.write (t.date.fields (t.time.fields {})))

def DateTime.joinedText (t : DateTime) : String :=
  String.ofList (joinedPattern.write (t.date.fields (t.time.fields {})))

def Date.ofText? (text : String) : Option Date :=
  (datePattern.read text).bind Fields.date?

def TimeOfDay.ofText? (text : String) : Option TimeOfDay :=
  (timePattern.read text).bind Fields.time?

/-- Either form is read, the one with a space first. -/
def DateTime.ofText? (text : String) : Option DateTime :=
  ((spacedPattern.read text).bind Fields.dateTime?).or
    ((joinedPattern.read text).bind Fields.dateTime?)

/-! ### The looser forms of the interchange format

Between the numbers white space is admitted, and a time may lack its seconds. -/

def looseDatePattern : Pattern :=
  [.year, .space, .mark '-', .month, .space, .mark '-', .day, .space]

def looseHourPattern : Pattern := [.hour, .space, .mark ':', .minute]

def looseSecondPattern : Pattern := [.space, .mark ':', .second, .fraction, .space]

def Date.ofLooseText? (text : String) : Option Date :=
  (looseDatePattern.read text).bind Fields.date?

def TimeOfDay.ofLooseText? (text : String) : Option TimeOfDay :=
  match looseHourPattern.readFront {} text.toList with
  | none => none
  | some (fields, rest) =>
    let (fields, rest) := (looseSecondPattern.readFront fields rest).getD (fields, rest)
    if skipBlank rest = [] then fields.time? else none

def DateTime.ofLooseText? (text : String) : Option DateTime :=
  ((looseDatePattern ++ .mark 'T' :: looseHourPattern ++ looseSecondPattern).read text).bind
    Fields.dateTime?

end IdentityMap.Calendar
