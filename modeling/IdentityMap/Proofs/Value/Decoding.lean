import IdentityMap.Schema.ScalarType
/-!
# Decoding as a normalisation

A type has values of its own kind (`ScalarType.Own`) and may declare a bound for them
(`ScalarType.Fits`). Decoding yields null or a value of the type's own kind, which then decodes to
itself; a value that is of this kind already comes through as it is, or not at all
(`ScalarType.decode_normalises`).

The bounds of integers and of text are kept. That of bytes is declared and not looked at: every
string of bytes passes, however long it is (`ScalarType.decode_keeps_bounds`).
-/

namespace IdentityMap.ScalarType

/-- The value is of the kind that stands for the type. A type that is known by its name only takes
every kind for its own. -/
def Own : ScalarType → Value → Prop
  | boolean, v => ∃ b, v = .bool b
  | tinyInt, v | smallInt, v | integer, v | bigInt, v => ∃ n, v = .int n
  | float, v | double, v => ∃ x, v = .float x
  | decimal _ _, v => ∃ written, v = .decimal written
  | string _, v => ∃ s, v = .text s
  | binary _, v => ∃ b, v = .bytes b
  | date, v => ∃ d, v = .date d
  | time, v => ∃ t, v = .time t
  | dateTime, v => ∃ t, v = .dateTime t
  | other _, _ => True

/-- The value keeps the bound that its type declares, where it declares one. -/
def Fits : ScalarType → Value → Prop
  | tinyInt, .int n => -128 ≤ n.toInt ∧ n.toInt ≤ 127
  | smallInt, .int n => -32768 ≤ n.toInt ∧ n.toInt ≤ 32767
  | integer, .int n => -2147483648 ≤ n.toInt ∧ n.toInt ≤ 2147483647
  | bigInt, .int n => -9223372036854775808 ≤ n.toInt ∧ n.toInt ≤ 9223372036854775807
  | string (some limit), .text s => s.length ≤ limit
  | binary (some limit), .bytes b => b.length ≤ limit
  | _, _ => True

/-- More bytes than the type declares. -/
inductive Overlong : ScalarType → Value → Prop
  | bytes {limit : Nat} {b : List UInt8} (longer : limit < b.length) :
    Overlong (binary (some limit)) (.bytes b)

/-- What a type makes of values that are stored in another form. -/
inductive Converted : ScalarType → Value → Value → Prop
  | boolean (n : Int64) (b : Bool) : Converted boolean (.int n) (.bool b)
  | float (n : Int64) : Converted float (.int n) (.float (Binary64.ofInt n.toInt))
  | double (n : Int64) : Converted double (.int n) (.float (Binary64.ofInt n.toInt))
  | decimal (precision scale : Nat) (raw : Value) (written : String) :
    Converted (decimal precision scale) raw (.decimal written)
  | date (s : String) (d : Calendar.Date) : Converted date (.text s) (.date d)
  | time (s : String) (t : Calendar.TimeOfDay) : Converted time (.text s) (.time t)
  | dateTime (s : String) (t : Calendar.DateTime) : Converted dateTime (.text s) (.dateTime t)

/-- What comes of decoding a value. -/
inductive Decoded (type : ScalarType) (field : String) : Value → Except Error Value → Prop
  | null : Decoded type field .null (.ok .null)
  | kept {v : Value} (own : type.Own v) (bound : type.Fits v ∨ type.Overlong v) :
    Decoded type field v (.ok v)
  | converted {v w : Value} (foreign : ¬ type.Own v) (conversion : type.Converted v w) :
    Decoded type field v (.ok w)
  | tooLong {limit : Nat} {s : String} (texts : type = string (some limit))
    (longer : limit < s.length) :
    Decoded type field (.text s) (.error (.illegal (.tooLong field limit)))
  | mismatch {v : Value} (unfit : type.Own v → ¬ type.Fits v)
    (unread : ∀ limit s, type = string limit → v ≠ .text s) :
    Decoded type field v (.error (.typeMismatch field type.display v.kindName))

variable {type : ScalarType} {field : String} {v w : Value} {e : Error}

/-! ### Kinds that are looked into -/

theorem decode_null (type : ScalarType) (field : String) : type.decode field .null = .ok .null :=
  rfl

theorem decode_boolean_int (field : String) (n : Int64) :
    boolean.decode field (.int n) =
      if n = 0 then .ok (.bool false)
      else if n = 1 then .ok (.bool true)
      else .error (boolean.mismatch field (.int n)) := rfl

theorem decode_string_text (limit : Nat) (field s : String) :
    (string (some limit)).decode field (.text s) =
      if limit < s.length then .error (.illegal (.tooLong field limit)) else .ok (.text s) := rfl

theorem decode_date_text (field s : String) :
    date.decode field (.text s) =
      match Calendar.Date.ofText? s with
      | some d => .ok (.date d)
      | none => .error (date.mismatch field (.text s)) := rfl

theorem decode_time_text (field s : String) :
    time.decode field (.text s) =
      match Calendar.TimeOfDay.ofText? s with
      | some t => .ok (.time t)
      | none => .error (time.mismatch field (.text s)) := rfl

theorem decode_dateTime_text (field s : String) :
    dateTime.decode field (.text s) =
      match Calendar.DateTime.ofText? s with
      | some t => .ok (.dateTime t)
      | none => .error (dateTime.mismatch field (.text s)) := rfl

/-! ### Every outcome -/

theorem fits_iff {bits : Nat} {n : Int64} :
    fits bits n = true ↔ -(Nat.pow 2 bits : Int) ≤ n.toInt ∧ n.toInt < Nat.pow 2 bits := by
  simp [fits]

theorem own_integer (integer : type.isInteger = true) : type.Own v ↔ ∃ n, v = .int n := by
  cases type <;> first | exact Iff.rfl | cases integer

theorem decodeInteger_outcome {bits : Nat} (integer : type.isInteger = true)
    (range : ∀ n, fits bits n = true ↔ type.Fits (.int n)) (v : Value) :
    Decoded type field v (type.decodeInteger bits field v) := by
  have unread : ∀ limit s, type = string limit → v ≠ .text s := by
    rintro limit s rfl
    cases integer
  unfold decodeInteger
  split
  case h_1 n =>
    split
    · rename_i inside
      exact .kept ((own_integer integer).2 ⟨n, rfl⟩) (.inl ((range n).1 inside))
    · rename_i outside
      exact .mismatch (fun _ bound => outside ((range n).2 bound)) unread
  case h_2 other =>
    refine .mismatch (fun own => ?_) unread
    obtain ⟨n, rfl⟩ := (own_integer integer).1 own
    exact absurd rfl (other n)

/-- A value of another kind may be refused. -/
theorem refused (foreign : ¬ type.Own v) :
    Decoded type field v (.error (type.mismatch field v)) := by
  refine .mismatch (fun own => absurd own foreign) ?_
  rintro limit s rfl rfl
  exact foreign ⟨s, rfl⟩

/-- Each value comes out of decoding in one of these ways. -/
theorem decode_outcome (type : ScalarType) (field : String) (v : Value) :
    Decoded type field v (type.decode field v) := by
  cases v with
  | null => exact .null
  | bool b =>
    cases type with
    | boolean => exact .kept ⟨b, rfl⟩ (.inl trivial)
    | other name => exact .kept trivial (.inl trivial)
    | _ => exact refused (by rintro ⟨_, ⟨⟩⟩)
  | int n =>
    cases type with
    | boolean =>
      have foreign : ¬ boolean.Own (.int n) := by rintro ⟨_, ⟨⟩⟩
      rw [decode_boolean_int]
      split
      · exact .converted foreign (.boolean n false)
      · split
        · exact .converted foreign (.boolean n true)
        · exact refused foreign
    | tinyInt | smallInt | integer | bigInt =>
      refine decodeInteger_outcome rfl (fun n => ?_) _
      rw [fits_iff, Fits, Nat.pow_eq]
      omega
    | float => exact .converted (by rintro ⟨_, ⟨⟩⟩) (.float n)
    | double => exact .converted (by rintro ⟨_, ⟨⟩⟩) (.double n)
    | decimal precision scale =>
      exact .converted (by rintro ⟨_, ⟨⟩⟩) (.decimal precision scale _ _)
    | other name => exact .kept trivial (.inl trivial)
    | _ => exact refused (by rintro ⟨_, ⟨⟩⟩)
  | float x =>
    cases type with
    | float | double => exact .kept ⟨x, rfl⟩ (.inl trivial)
    | decimal precision scale =>
      exact .converted (by rintro ⟨_, ⟨⟩⟩) (.decimal precision scale _ _)
    | other name => exact .kept trivial (.inl trivial)
    | _ => exact refused (by rintro ⟨_, ⟨⟩⟩)
  | decimal written =>
    cases type with
    | decimal precision scale => exact .kept ⟨written, rfl⟩ (.inl trivial)
    | other name => exact .kept trivial (.inl trivial)
    | _ => exact refused (by rintro ⟨_, ⟨⟩⟩)
  | text s =>
    cases type with
    | decimal precision scale =>
      exact .converted (by rintro ⟨_, ⟨⟩⟩) (.decimal precision scale _ _)
    | string limit =>
      cases limit with
      | none => exact .kept ⟨s, rfl⟩ (.inl trivial)
      | some limit =>
        rw [decode_string_text]
        split
        · rename_i longer
          exact .tooLong rfl longer
        · rename_i bound
          exact .kept ⟨s, rfl⟩ (.inl (Nat.le_of_not_lt bound))
    | date =>
      have foreign : ¬ date.Own (.text s) := by rintro ⟨_, ⟨⟩⟩
      rw [decode_date_text]
      split
      · exact .converted foreign (.date s _)
      · exact refused foreign
    | time =>
      have foreign : ¬ time.Own (.text s) := by rintro ⟨_, ⟨⟩⟩
      rw [decode_time_text]
      split
      · exact .converted foreign (.time s _)
      · exact refused foreign
    | dateTime =>
      have foreign : ¬ dateTime.Own (.text s) := by rintro ⟨_, ⟨⟩⟩
      rw [decode_dateTime_text]
      split
      · exact .converted foreign (.dateTime s _)
      · exact refused foreign
    | other name => exact .kept trivial (.inl trivial)
    | _ => exact refused (by rintro ⟨_, ⟨⟩⟩)
  | bytes b =>
    cases type with
    | binary limit =>
      refine .kept ⟨b, rfl⟩ ?_
      cases limit with
      | none => exact .inl trivial
      | some limit => exact (Nat.lt_or_ge limit b.length).symm.imp id .bytes
    | other name => exact .kept trivial (.inl trivial)
    | _ => exact refused (by rintro ⟨_, ⟨⟩⟩)
  | date d =>
    cases type with
    | date => exact .kept ⟨d, rfl⟩ (.inl trivial)
    | other name => exact .kept trivial (.inl trivial)
    | _ => exact refused (by rintro ⟨_, ⟨⟩⟩)
  | time t =>
    cases type with
    | time => exact .kept ⟨t, rfl⟩ (.inl trivial)
    | other name => exact .kept trivial (.inl trivial)
    | _ => exact refused (by rintro ⟨_, ⟨⟩⟩)
  | dateTime t =>
    cases type with
    | dateTime => exact .kept ⟨t, rfl⟩ (.inl trivial)
    | other name => exact .kept trivial (.inl trivial)
    | _ => exact refused (by rintro ⟨_, ⟨⟩⟩)

/-! ### Values that were decoded -/

/-- A decoded value is the raw one, unless its type has converted it. -/
theorem decode_cases (decoded : type.decode field v = .ok w) : w = v ∨ Converted type v w := by
  have outcome := decode_outcome type field v
  rw [decoded] at outcome
  cases outcome with
  | null | kept => exact .inl rfl
  | converted _ conversion => exact .inr conversion

theorem decode_again (decoded : type.decode field v = .ok w) : type.decode field w = .ok w := by
  rcases decode_cases decoded with rfl | converted
  · exact decoded
  · cases converted <;> rfl

/-- A key is decoded to itself. -/
theorem decode_key (keyed : type.isKeyType = true) (decoded : type.decode field v = .ok w) :
    w = v := by
  rcases decode_cases decoded with same | converted
  · exact same
  · cases converted <;> cases keyed

theorem decode_eq_null_iff (decoded : type.decode field v = .ok w) : w = .null ↔ v = .null := by
  constructor
  · rintro rfl
    rcases decode_cases decoded with same | converted
    · exact same.symm
    · cases converted
  · rintro rfl
    cases decoded
    rfl

/-- What is decoded from a value is of the type's own kind. -/
theorem own_of_decode (decoded : type.decode field v = .ok w) (present : w ≠ .null) :
    type.Own w := by
  have outcome := decode_outcome type field v
  rw [decoded] at outcome
  cases outcome with
  | null => exact absurd rfl present
  | kept own => exact own
  | converted _ conversion => cases conversion <;> exact ⟨_, rfl⟩

/-- A value of the type's own kind is never changed. -/
theorem decode_own (own : type.Own v) (decoded : type.decode field v = .ok w) : w = v := by
  have outcome := decode_outcome type field v
  rw [decoded] at outcome
  cases outcome with
  | null | kept => rfl
  | converted foreign => exact absurd own foreign

/-- A decoded value keeps the bound of its type, unless it is a string of bytes. -/
theorem fits_or_overlong (decoded : type.decode field v = .ok w) (present : w ≠ .null) :
    type.Fits w ∨ type.Overlong w ∧ w = v := by
  have outcome := decode_outcome type field v
  rw [decoded] at outcome
  cases outcome with
  | null => exact absurd rfl present
  | kept _ bound => exact bound.imp_right fun longer => ⟨longer, rfl⟩
  | converted _ conversion => cases conversion <;> exact .inl trivial

/-- A value of the type's own kind that keeps the bound is taken. -/
theorem decode_fitting (own : type.Own v) (bound : type.Fits v) :
    type.decode field v = .ok v := by
  have outcome := decode_outcome type field v
  generalize type.decode field v = result at outcome
  cases outcome with
  | null | kept => rfl
  | converted foreign => exact absurd own foreign
  | tooLong texts longer =>
    subst texts
    exact absurd bound (Nat.not_le_of_lt longer)
  | mismatch unfit => exact absurd bound (unfit own)

/-- Apart from bytes, a value of the type's own kind is taken exactly if it keeps the bound. -/
theorem decode_own_iff (unbyted : ∀ limit, type ≠ .binary limit) (own : type.Own v) :
    type.decode field v = .ok v ↔ type.Fits v := by
  refine ⟨fun decoded => ?_, decode_fitting own⟩
  by_cases absent : v = .null
  · subst absent
    unfold Fits
    split <;> trivial
  · rcases fits_or_overlong decoded absent with bound | ⟨longer, -⟩
    · exact bound
    · cases longer
      exact absurd rfl (unbyted _)

/-- A value is refused as being too long a text, or for its kind. -/
theorem decode_error (failed : type.decode field v = .error e) :
    (∃ limit s, type = .string (some limit) ∧ v = .text s ∧ limit < s.length ∧
      e = .illegal (.tooLong field limit)) ∨
    (∀ limit s, type = .string limit → v ≠ .text s) ∧
      e = .typeMismatch field type.display v.kindName := by
  have outcome := decode_outcome type field v
  rw [failed] at outcome
  cases outcome with
  | tooLong texts longer => exact .inl ⟨_, _, texts, rfl, longer, rfl⟩
  | mismatch _ unread => exact .inr ⟨unread, rfl⟩

/-! ### Bounds and normal forms -/

/-- Which declared bounds decoding keeps. What is decoded is null or a value of the type's own kind
that keeps the bound, except that bytes pass in any number, as they are. Of all other types a value
of the type's own kind is taken exactly if it keeps the bound. -/
theorem decode_keeps_bounds (type : ScalarType) (field : String) :
    (∀ v w, type.decode field v = .ok w →
      w = .null ∨ type.Own w ∧ (type.Fits w ∨ type.Overlong w ∧ w = v)) ∧
    (∀ v, (∀ limit, type ≠ .binary limit) → type.Own v →
      (type.decode field v = .ok v ↔ type.Fits v)) ∧
    ∀ limit b, (binary limit).decode field (.bytes b) = .ok (.bytes b) := by
  refine ⟨fun v w decoded => ?_, fun v unbyted own => decode_own_iff unbyted own,
    fun limit b => rfl⟩
  by_cases absent : w = .null
  · exact .inl absent
  · exact .inr ⟨own_of_decode decoded absent, fits_or_overlong decoded absent⟩

theorem decode_keeps_bounds_smallInt :
    smallInt.decode "level" (.int (-32768)) = .ok (.int (-32768)) ∧
    (Value.int (-32768) = .null ∨ smallInt.Own (.int (-32768)) ∧
      (smallInt.Fits (.int (-32768)) ∨
        smallInt.Overlong (.int (-32768)) ∧ Value.int (-32768) = .int (-32768))) ∧
    smallInt.decode "level" (.int 32768) ≠ .ok (.int 32768) ∧
    (string (some 3)).decode "code" (.text "äöü") = .ok (.text "äöü") ∧
    (string (some 3)).decode "code" (.text "äöüß") ≠ .ok (.text "äöüß") := by
  obtain ⟨bounded, numbers, -⟩ := decode_keeps_bounds smallInt "level"
  obtain ⟨-, texts, -⟩ := decode_keeps_bounds (string (some 3)) "code"
  have number (n : Int64) := numbers (.int n) (fun _ => nofun) ⟨n, rfl⟩
  have text (s : String) := texts (.text s) (fun _ => nofun) ⟨s, rfl⟩
  have taken := (number (-32768)).2 ⟨by decide, by decide⟩
  refine ⟨taken, bounded _ _ taken, fun passed => ?_, (text "äöü").2 (by decide : 3 ≤ 3),
    fun passed => ?_⟩
  · exact absurd ((number 32768).1 passed).2 (by decide)
  · exact absurd ((text "äöüß").1 passed) (by decide : ¬ 4 ≤ 3)

/-- Three bytes are taken for a value of a type of two. -/
theorem three_bytes_in_two :
    (binary (some 2)).decode "tag" (.bytes [1, 2, 3]) = .ok (.bytes [1, 2, 3]) ∧
    ¬ (binary (some 2)).Fits (.bytes [1, 2, 3]) :=
  ⟨rfl, (by decide : ¬ 3 ≤ 2)⟩

/-- Decoding is a normalisation. What it yields decodes to itself, is null only for null, and is of
the type's own kind otherwise; a value that is of this kind already is never altered, and it is
taken if it keeps the type's bound. What it refuses is either a text longer than its type admits or
a mismatch that names the kind of the value. -/
theorem decode_normalises (type : ScalarType) (field : String) (v : Value) :
    (∀ w, type.decode field v = .ok w →
      type.decode field w = .ok w ∧ (w = .null ↔ v = .null) ∧ (w ≠ .null → type.Own w) ∧
        (type.Own v → w = v)) ∧
    (v = .null ∨ type.Own v ∧ type.Fits v → type.decode field v = .ok v) ∧
    ∀ e, type.decode field v = .error e →
      (∃ limit s, type = .string (some limit) ∧ v = .text s ∧ limit < s.length ∧
        e = .illegal (.tooLong field limit)) ∨
      (∀ limit s, type = .string limit → v ≠ .text s) ∧
        e = .typeMismatch field type.display v.kindName := by
  refine ⟨fun w decoded => ⟨decode_again decoded, decode_eq_null_iff decoded,
    own_of_decode decoded, fun own => decode_own own decoded⟩, ?_, fun e => decode_error⟩
  rintro (rfl | ⟨own, bound⟩)
  · rfl
  · exact decode_fitting own bound

theorem decode_normalises_price :
    (decimal 10 2).decode "price" (.text "12.50") = .ok (.decimal "12.50") ∧
    (decimal 10 2).decode "price" (.decimal "12.50") = .ok (.decimal "12.50") ∧
    (decimal 10 2).Own (.decimal "12.50") ∧
    (∃ e, (string (some 3)).decode "code" (.text "abcd") = .error e ∧
      e = .illegal (.tooLong "code" 3)) ∧
    ∃ e, tinyInt.decode "level" (.int 300) = .error e ∧
      e = .typeMismatch "level" "tinyint" "Int" := by
  obtain ⟨price, -, -⟩ := decode_normalises (decimal 10 2) "price" (.text "12.50")
  obtain ⟨-, -, code⟩ := decode_normalises (string (some 3)) "code" (.text "abcd")
  obtain ⟨-, -, level⟩ := decode_normalises tinyInt "level" (.int 300)
  have decoded : (decimal 10 2).decode "price" (.text "12.50") = .ok (.decimal "12.50") := rfl
  obtain ⟨again, -, own, -⟩ := price _ decoded
  refine ⟨decoded, again, own nofun, ⟨_, rfl, ?_⟩, _, rfl, ?_⟩
  · rcases code _ rfl with ⟨limit, s, ⟨⟩, ⟨⟩, -, wording⟩ | ⟨unread, -⟩
    · exact wording
    · exact absurd rfl (unread _ "abcd" rfl)
  · rcases level _ rfl with ⟨limit, s, ⟨⟩, -⟩ | ⟨-, wording⟩
    exact wording

end IdentityMap.ScalarType
