import IdentityMap.Database.Stored
import IdentityMap.Proofs.Calendar.Written
import IdentityMap.Proofs.Value.Decoding
import IdentityMap.Value.Record
import IdentityMap.Value.Key
/-!
# Values that come back from storage

A row store hands back a bare storage class. Decoding restores what the value would have decoded to
before it was stored (`ScalarType.decode_stored`), for every declared type with a form of its own
and every value that storage keeps (`Value.isKept`): a NaN is stored as null, and a leap second
within a minute as the text of the second after it (`ScalarType.stray_decodes_otherwise`).
-/

namespace IdentityMap

/-! ### Numbers -/

theorem roundedQuotient_le (num den : Nat) : roundedQuotient num den ≤ num / den + 1 := by
  unfold roundedQuotient
  dsimp only
  split
  · exact Nat.le_succ _
  · split
    · exact Nat.le_refl _
    · split
      · exact Nat.le_succ _
      · exact Nat.le_refl _

/-- Fields below those of the infinities make a number, also if the fraction counts into the
exponent. -/
theorem Binary64.isNaN_ofFields {negative : Bool} {exponent fraction : Nat}
    (finite : exponent + 1 < exponentLimit) (fits : fraction ≤ fractionLimit) :
    (ofFields negative exponent fraction).isNaN = false := by
  have power : fractionLimit = 4503599627370496 := by decide
  have sign : (if negative then Nat.pow 2 63 else 0) = 2048 * 4503599627370496 ∨
      (if negative then Nat.pow 2 63 else 0) = 0 := by
    cases negative
    · exact .inr rfl
    · exact .inl (by decide)
  have field : (ofFields negative exponent fraction).exponent ≠ exponentLimit := by
    simp only [Binary64.exponent, ofFields, UInt64.toNat_ofNat', exponentLimit, power] at *
    generalize (if negative then Nat.pow 2 63 else 0) = offset at *
    have small : offset + exponent * 4503599627370496 + fraction < 2 ^ 64 := by omega
    rw [Nat.mod_eq_of_lt small]
    rcases sign with rfl | rfl <;> omega
  simp [isNaN, field]

/-- The integers of 64 bits are numbers in floating point. -/
theorem Binary64.isNaN_ofInt (n : Int64) : (Binary64.ofInt n.toInt).isNaN = false := by
  have bound : n.toInt.natAbs ≤ 2 ^ 63 := by
    have low := n.le_toInt
    have high := n.toInt_lt
    omega
  unfold ofInt
  dsimp only
  generalize n.toInt.natAbs = size at bound
  split
  · decide
  · rename_i positive
    have top : size.log2 ≤ 63 := by
      have lower := Nat.log2_self_le positive
      exact (Nat.pow_le_pow_iff_right (by decide : 1 < 2)).1 (Nat.le_trans lower bound)
    have upper : size < 2 ^ (size.log2 + 1) := Nat.lt_log2_self
    refine isNaN_ofFields (by unfold exponentLimit; omega) (Nat.sub_le_of_le_add ?_)
    show _ ≤ 2 ^ 52 + 2 ^ 52
    split
    · rename_i narrow
      have scaled : size * 2 ^ (52 - size.log2) < 2 ^ (size.log2 + 1) * 2 ^ (52 - size.log2) :=
        Nat.mul_lt_mul_of_pos_right upper (Nat.two_pow_pos _)
      rw [← Nat.pow_add, show size.log2 + 1 + (52 - size.log2) = 53 by omega] at scaled
      show size * 2 ^ (52 - size.log2) ≤ _
      omega
    · rename_i wide
      have quotient : size / 2 ^ (size.log2 - 52) < 2 ^ 53 := by
        refine Nat.div_lt_of_lt_mul ?_
        rw [← Nat.pow_add, show size.log2 - 52 + 53 = size.log2 + 1 by omega]
        exact upper
      have rounded := roundedQuotient_le size (2 ^ (size.log2 - 52))
      show roundedQuotient size (2 ^ (size.log2 - 52)) ≤ _
      omega

namespace Value

theorem isKept_iff {v : Value} : v.isKept = true ↔ v.isNaN = false ∧ v.isStray = false := by
  simp [isKept]

theorem isNaN_toStored (v : Value) : v.toStored.toValue.isNaN = false := by
  cases v with
  | float x =>
    cases number : x.isNaN <;> simp [toStored, number, Stored.toValue, isNaN]
  | _ => rfl

/-- There are no times among the storage classes. -/
theorem isStray_toValue (s : Stored) : s.toValue.isStray = false := by
  cases s <;> rfl

theorem isKept_toValue {s : Stored} (number : s.toValue.isNaN = false) :
    s.toValue.isKept = true :=
  isKept_iff.2 ⟨number, isStray_toValue s⟩

/-- What is read back from a cell is stored as what the cell holds. -/
theorem toStored_toValue {s : Stored} (number : s.toValue.isNaN = false) :
    s.toValue.toStored = s := by
  cases s with
  | real x => simp_all [Stored.toValue, toStored, isNaN]
  | _ => rfl

end Value

theorem Record.hasNaN_eq_false_iff {r : Record} :
    r.hasNaN = false ↔ ∀ field v, r.get? field = some v → v.isNaN = false := by
  have numbers : r.hasNaN = false ↔ ∀ e ∈ r.entries, e.2.isNaN = false := by
    simp [hasNaN, OrderedMap.values]
  rw [numbers]
  constructor
  · intro each field v found
    exact each (field, v) ((r.mem_entries_iff (field, v)).2 found)
  · intro each e listed
    exact each e.1 e.2 ((r.mem_entries_iff e).1 listed)

theorem Record.isKept_iff {r : Record} :
    r.isKept = true ↔ ∀ field v, r.get? field = some v → v.isKept = true := by
  have kept : r.isKept = true ↔ ∀ e ∈ r.entries, e.2.isKept = true := by
    simp [isKept, OrderedMap.values]
  rw [kept]
  constructor
  · intro each field v found
    exact each (field, v) ((r.mem_entries_iff (field, v)).2 found)
  · intro each e listed
    exact each e.1 e.2 ((r.mem_entries_iff e).1 listed)

theorem Record.isKept_valueOf {r : Record} (kept : r.isKept = true) (field : String) :
    (r.valueOf field).isKept = true := by
  unfold valueOf
  cases found : r.get? field with
  | none => rfl
  | some v => exact isKept_iff.1 kept field v found

/-- What storage keeps has no NaN. -/
theorem Record.hasNaN_of_isKept {r : Record} (kept : r.isKept = true) : r.hasNaN = false :=
  hasNaN_eq_false_iff.2 fun field v found =>
    (Value.isKept_iff.1 (isKept_iff.1 kept field v found)).1

/-! ### Keys -/

namespace EntityKey

/-- The form in which a key is stored. -/
def stored (key : EntityKey) : Stored := key.toValue.toStored

theorem toList_of_ofBytes? {b : List UInt8} {u : Uuid} (made : Uuid.ofBytes? b = some u) :
    u.toList = b := by
  unfold Uuid.ofBytes? at made
  split at made <;> cases made
  rfl

/-- The value of a key tells the key. -/
theorem toValue_of_ofValue? {v : Value} {key : EntityKey} (made : ofValue? v = some key) :
    v = key.toValue := by
  cases v with
  | int n | text s =>
    cases made
    rfl
  | bytes b =>
    obtain ⟨u, sixteen, rfl⟩ := Option.map_eq_some_iff.1 made
    rw [toValue, toList_of_ofBytes? sixteen]
  | _ => cases made

@[simp] theorem toValue_stored (key : EntityKey) : key.stored.toValue = key.toValue := by
  cases key <;> rfl

theorem stored_injective {key key' : EntityKey} (same : key.stored = key'.stored) : key = key' := by
  have values : key.toValue = key'.toValue := by
    rw [← toValue_stored, same, toValue_stored]
  have back : ofValue? key.toValue = ofValue? key'.toValue := by rw [values]
  simpa using back

/-- A stored value that makes a key is the stored form of this key. -/
theorem stored_of_ofValue? {s : Stored} {key : EntityKey} (made : ofValue? s.toValue = some key) :
    s = key.stored := by
  have same := toValue_of_ofValue? made
  cases s <;> cases key <;> cases same <;> rfl

end EntityKey

namespace ScalarType

variable {type : ScalarType} {field : String} {v w : Value}

/-- A value that a key can have is stored as it is. -/
theorem toValue_toStored_key (keyed : type.isKeyType = true)
    (decoded : type.decode field v = .ok w) : v.toStored.toValue = v := by
  cases v with
  | null | int n | text s | bytes b => rfl
  | _ => cases type <;> cases decoded <;> cases keyed

/-- Decoding turns no number into something else. -/
theorem isNaN_decode (decoded : type.decode field v = .ok w) (number : v.isNaN = false) :
    w.isNaN = false := by
  rcases decode_cases decoded with rfl | converted
  · exact number
  · cases converted with
    | float n | double n => exact Binary64.isNaN_ofInt n
    | _ => rfl

/-- Decoding makes no stray leap second either: a text shows none. -/
theorem isStray_decode (decoded : type.decode field v = .ok w) (regular : v.isStray = false) :
    w.isStray = false := by
  rcases decode_cases decoded with rfl | converted
  · exact regular
  · cases converted with
    | time s t =>
      rw [decode_time_text] at decoded
      split at decoded <;> cases decoded
      exact Calendar.TimeOfDay.isStray_ofText? ‹_›
    | dateTime s t =>
      rw [decode_dateTime_text] at decoded
      split at decoded <;> cases decoded
      exact Calendar.DateTime.isStray_ofText? ‹_›
    | _ => rfl

theorem isKept_decode (decoded : type.decode field v = .ok w) (kept : v.isKept = true) :
    w.isKept = true := by
  obtain ⟨number, regular⟩ := Value.isKept_iff.1 kept
  exact Value.isKept_iff.2 ⟨isNaN_decode decoded number, isStray_decode decoded regular⟩

/-! What was written of a day or a time is read as what it shows. -/

theorem decode_text_date (field : String) (d : Calendar.Date) :
    date.decode field (.text d.text) = .ok (.date d) := by
  rw [decode_date_text, Calendar.Date.ofText?_text]

theorem decode_text_time (field : String) (t : Calendar.TimeOfDay) :
    time.decode field (.text t.text) = .ok (.time t.shown) := by
  rw [decode_time_text, Calendar.TimeOfDay.ofText?_text]

theorem decode_text_dateTime (field : String) (t : Calendar.DateTime) :
    dateTime.decode field (.text t.text) = .ok (.dateTime t.shown) := by
  rw [decode_dateTime_text, Calendar.DateTime.ofText?_text]

/-- A value that is kept decodes alike before it is stored and after. -/
theorem decode_stored (known : ∀ name, type ≠ .other name) (kept : v.isKept = true)
    (decoded : type.decode field v = .ok w) : type.decode field v.toStored.toValue = .ok w := by
  obtain ⟨number, regular⟩ := Value.isKept_iff.1 kept
  cases v with
  | null | int n | text s | bytes b => exact decoded
  | float x =>
    have kept : (Value.float x).toStored = .real x := if_neg (by simpa [Value.isNaN] using number)
    rw [kept]
    exact decoded
  | bool b =>
    cases type with
    | boolean => cases b <;> exact decoded
    | other name => exact absurd rfl (known name)
    | _ => cases decoded
  | decimal written =>
    cases type with
    | decimal precision scale => exact decoded
    | other name => exact absurd rfl (known name)
    | _ => cases decoded
  | date d =>
    cases type with
    | date => exact (decode_text_date field d).trans decoded
    | other name => exact absurd rfl (known name)
    | _ => cases decoded
  | time t =>
    cases type with
    | time =>
      have shown : t.shown = t := Calendar.TimeOfDay.shown_eq_iff.2 regular
      have read := decode_text_time field t
      rw [shown] at read
      exact read.trans decoded
    | other name => exact absurd rfl (known name)
    | _ => cases decoded
  | dateTime t =>
    cases type with
    | dateTime =>
      have shown : t.shown = t := Calendar.DateTime.shown_eq_iff.2 regular
      have read := decode_text_dateTime field t
      rw [shown] at read
      exact read.trans decoded
    | other name => exact absurd rfl (known name)
    | _ => cases decoded

/-- What was decoded from a cell and is stored again decodes to the same. -/
theorem decode_restored {s : Stored} (number : s.toValue.isNaN = false)
    (decoded : type.decode field s.toValue = .ok v) :
    type.decode field v.toStored.toValue = .ok v := by
  rcases decode_cases decoded with rfl | converted
  · rw [Value.toStored_toValue number]
    exact decoded
  · have known : ∀ name, type ≠ .other name := by
      rintro name rfl
      cases converted
    exact decode_stored known (isKept_decode decoded (Value.isKept_toValue number))
      (decode_again decoded)

/-- Stored values decode back. What a value decodes to is what it decodes to when it comes back from
storage, for every type with a form of its own and every value that is neither a NaN nor a stray
leap second. So each accepted value of a type's own kind comes back as itself; dates, times and
points in time do so by their text, whatever the year and the fraction of the second. A stray leap
second comes back as the second that its text shows. -/
theorem stored_values_decode_back (field : String) :
    (∀ (type : ScalarType) (v w : Value), (∀ name, type ≠ .other name) → v.isNaN = false →
      v.isStray = false → type.decode field v = .ok w →
      type.decode field v.toStored.toValue = .ok w) ∧
    (∀ d : Calendar.Date, ∃ text, (Value.date d).toStored = .text text ∧
      date.decode field (.text text) = .ok (.date d)) ∧
    (∀ t : Calendar.TimeOfDay, ∃ text, (Value.time t).toStored = .text text ∧
      time.decode field (.text text) = .ok (.time t.shown) ∧
      (t.shown = t ↔ t.isStray = false)) ∧
    (∀ t : Calendar.DateTime, ∃ text, (Value.dateTime t).toStored = .text text ∧
      dateTime.decode field (.text text) = .ok (.dateTime t.shown) ∧
      (t.shown = t ↔ t.time.isStray = false)) ∧
    (∀ (type : ScalarType) (n : Int64) (w : Value), type.isInteger = true →
      type.decode field (.int n) = .ok w →
      type.decode field (Value.int n).toStored.toValue = .ok (.int n)) ∧
    (∀ (type : ScalarType) (x : Binary64), (type = .float ∨ type = .double) → x.isNaN = false →
      type.decode field (Value.float x).toStored.toValue = .ok (.float x)) ∧
    (∀ b : Bool, boolean.decode field (Value.bool b).toStored.toValue = .ok (.bool b)) ∧
    (∀ precision scale written,
      (decimal precision scale).decode field (Value.decimal written).toStored.toValue
        = .ok (.decimal written)) ∧
    (∀ limit s w, (string limit).decode field (.text s) = .ok w →
      (string limit).decode field (Value.text s).toStored.toValue = .ok (.text s)) ∧
    (∀ limit b, (binary limit).decode field (Value.bytes b).toStored.toValue = .ok (.bytes b)) := by
  have back {type : ScalarType} {v w : Value} (known : ∀ name, type ≠ .other name)
      (number : v.isNaN = false) (regular : v.isStray = false)
      (decoded : type.decode field v = .ok w) : type.decode field v.toStored.toValue = .ok w :=
    decode_stored known (Value.isKept_iff.2 ⟨number, regular⟩) decoded
  refine ⟨fun type v w => back, fun d => ⟨d.text, rfl, ?date⟩,
    fun t => ⟨t.text, rfl, ?time, Calendar.TimeOfDay.shown_eq_iff⟩,
    fun t => ⟨t.text, rfl, ?dateTime, Calendar.DateTime.shown_eq_iff⟩,
    ?int, ?float, ?bool, ?decimal, ?text, ?bytes⟩
  case date => exact back (v := .date d) (by simp) rfl rfl rfl
  case time => exact decode_text_time field t
  case dateTime => exact decode_text_dateTime field t
  case int =>
    intro type n w integer decoded
    have known : ∀ name, type ≠ .other name := by
      rintro name rfl
      cases integer
    rcases decode_cases decoded with rfl | converted
    · exact back known rfl rfl decoded
    · cases converted <;> cases integer
  case float =>
    rintro type x (rfl | rfl) number <;> exact back (by simp) number rfl rfl
  case bool => exact fun b => back (by simp) rfl rfl rfl
  case decimal => exact fun precision scale written => back (by simp) rfl rfl rfl
  case text =>
    intro limit s w decoded
    rcases decode_cases decoded with rfl | converted
    · exact back (by simp) rfl rfl decoded
    · cases converted
  case bytes => exact fun limit b => back (by simp) rfl rfl rfl

/-- The leap second at the end of a day before the year zero. -/
def leapSecond : Calendar.DateTime where
  date := ⟨-44, 3, 15, by decide, by decide, by decide⟩
  time := ⟨23, 59, 59, 1000000001, by decide, by decide, by decide, by decide⟩

theorem leapSecond_decodes_back :
    (Value.dateTime leapSecond).toStored = .text "-0044-03-15 23:59:60.000000001" ∧
    dateTime.decode "at" (.text "-0044-03-15 23:59:60.000000001") = .ok (.dateTime leapSecond) ∧
    boolean.decode "open" (Value.bool true).toStored.toValue = .ok (.bool true) ∧
    smallInt.decode "level" (Value.int 32767).toStored.toValue = .ok (.int 32767) := by
  have spelled : (Value.dateTime leapSecond).toStored = .text "-0044-03-15 23:59:60.000000001" := by
    decide +kernel
  obtain ⟨back, -⟩ := stored_values_decode_back "at"
  refine ⟨spelled, ?_, ?_, ?_⟩
  · have decoded := back dateTime (.dateTime leapSecond) _ (by simp) rfl rfl rfl
    rwa [spelled] at decoded
  · exact (stored_values_decode_back "open").1 boolean (.bool true) _ (by simp) rfl rfl rfl
  · exact (stored_values_decode_back "level").2.2.2.2.1 smallInt 32767 _ rfl (by rfl)

/-- A leap second behind the first second of an hour. -/
def strayLeap : Calendar.TimeOfDay :=
  ⟨12, 0, 0, 1500000000, by decide, by decide, by decide, by decide⟩

/-- The stray leap second is accepted as it is, and stored as the text of the second after it. -/
theorem stray_decodes_otherwise :
    (Value.time strayLeap).isNaN = false ∧
    time.decode "at" (.time strayLeap) = .ok (.time strayLeap) ∧
    (Value.time strayLeap).toStored = .text "12:00:01.500" ∧
    time.decode "at" (.text "12:00:01.500") = .ok (.time strayLeap.shown) ∧
    time.decode "at" (Value.time strayLeap).toStored.toValue ≠ .ok (.time strayLeap) := by
  have text : strayLeap.text = "12:00:01.500" := by decide +kernel
  have spelled : (Value.time strayLeap).toStored = .text "12:00:01.500" := congrArg _ text
  have read : time.decode "at" (.text "12:00:01.500") = .ok (.time strayLeap.shown) := by
    rw [← text]
    exact decode_text_time "at" strayLeap
  refine ⟨rfl, rfl, spelled, read, fun back => ?_⟩
  rw [spelled] at back
  have same : Value.time strayLeap.shown = .time strayLeap :=
    Except.ok.inj (read.symm.trans back)
  exact absurd same (by decide)

end ScalarType

end IdentityMap
