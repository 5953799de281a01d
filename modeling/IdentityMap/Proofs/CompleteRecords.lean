import IdentityMap.Proofs.Declaration
import IdentityMap.Proofs.Keys
import IdentityMap.Proofs.OrderedMapLookup
import IdentityMap.Proofs.Value.Decoding
/-!
# The check of complete records

Before a row is inserted or updated, its record is checked against the entity type. A record fits if
its fields are all declared, if those that refuse null have values, and if each value is one that
its field decodes (`EntityType.Complete`). The check accepts exactly these records, and of several
faults it reports one, by a fixed order (`EntityType.check_reports`). An accepted record carries a
key, except that byte strings of any length pass for an identifier of 16 bytes.
-/

namespace IdentityMap.EntityType

variable {t : EntityType} {r : Record} {f : Field} {e : Error}

/-! ### Records that fit -/

def Declares (t : EntityType) (name : String) : Prop := ∃ f ∈ t.fields, f.name = name

/-- A record that fits its type. -/
structure Complete (t : EntityType) (r : Record) : Prop where
  declared : ∀ name ∈ r.keys, t.Declares name
  required : ∀ f ∈ t.fields, f.nullable = false → ∃ v, r.get? f.name = some v ∧ v ≠ .null
  decoded : ∀ f ∈ t.fields, ∀ v, r.get? f.name = some v → ∃ w, f.type.decode f.name v = .ok w

/-- How the record's value for a declared field is at fault, and what is said of it. -/
inductive Offends (t : EntityType) (r : Record) (f : Field) : Error → Prop
  | missing (required : f.nullable = false)
      (absent : r.get? f.name = none ∨ r.get? f.name = some .null) :
    Offends t r f (.illegal (.missingValue t.name f.name))
  | refused {v : Value} {e : Error} (present : r.get? f.name = some v)
      (failed : f.type.decode f.name v = .error e) : Offends t r f e

/-- The first name of the record that the type does not declare, in the order of names. -/
structure FirstUndeclared (t : EntityType) (r : Record) (name : String) : Prop where
  listed : name ∈ r.keys
  undeclared : ¬ t.Declares name
  first : ∀ other ∈ r.keys, ¬ t.Declares other → name = other ∨ name < other

/-- The first field at fault, in the order of declaration. -/
structure FirstOffence (t : EntityType) (r : Record) (e : Error) : Prop where
  declared : ∀ name ∈ r.keys, t.Declares name
  first : ∃ before f after, t.fields = before ++ f :: after ∧ t.Offends r f e ∧
    ∀ g ∈ before, ∀ e', ¬ t.Offends r g e'

/-! ### One field -/

theorem checkField_error_iff : t.checkField r f = .error e ↔ t.Offends r f e := by
  unfold checkField
  constructor
  · intro failed
    split at failed
    · rename_i absent
      split at failed
      · cases failed
      · rename_i required
        cases failed
        exact .missing (by simpa using required) (.inl absent)
    · rename_i v present
      split at failed
      · rename_i null
        cases failed
        have absent : v = .null := by cases v <;> first | rfl | cases null.1
        exact .missing null.2 (.inr (absent ▸ present))
      · cases decoded : f.type.decode f.name v with
        | ok w => simp [decoded, Except.map] at failed
        | error e' =>
          obtain rfl : e' = e := by simpa [decoded, Except.map] using failed
          exact .refused present decoded
  · intro offence
    cases offence with
    | missing required absent =>
      rcases absent with absent | absent <;> simp [absent, required, Value.isNull]
    | @refused v _ present failed =>
      have given : v.isNull = false := by cases v <;> first | rfl | cases failed
      simp [present, given, failed, Except.map]

theorem checkField_ok_iff : t.checkField r f = .ok () ↔ ∀ e, ¬ t.Offends r f e := by
  cases checked : t.checkField r f with
  | ok _ =>
    refine iff_of_true rfl fun e offence => ?_
    cases checked.symm.trans (checkField_error_iff.2 offence)
  | error e => exact iff_of_false (by simp) fun none => none e (checkField_error_iff.1 checked)

/-- A field without an offence has a value if it needs one, and no value that it does not decode. -/
theorem not_offends_iff : (∀ e, ¬ t.Offends r f e) ↔
    (f.nullable = false → ∃ v, r.get? f.name = some v ∧ v ≠ .null) ∧
      ∀ v, r.get? f.name = some v → ∃ w, f.type.decode f.name v = .ok w := by
  constructor
  · intro none
    refine ⟨fun required => ?_, fun v present => ?_⟩
    · cases present : r.get? f.name with
      | none => exact absurd (.missing required (.inl present)) (none _)
      | some v => exact ⟨v, rfl, fun null => none _ (.missing required (.inr (null ▸ present)))⟩
    · cases decoded : f.type.decode f.name v with
      | ok w => exact ⟨w, rfl⟩
      | error e => exact absurd (.refused present decoded) (none e)
  · rintro ⟨given, decodes⟩ e offence
    cases offence with
    | missing required absent =>
      obtain ⟨v, present, number⟩ := given required
      rcases absent with absent | absent
      · cases present.symm.trans absent
      · cases present.symm.trans absent
        exact number rfl
    | refused present failed =>
      obtain ⟨w, decoded⟩ := decodes _ present
      cases decoded.symm.trans failed

/-! ### All fields -/

theorem checkFields_error_iff {fields : List Field} :
    t.checkFields r fields = .error e ↔ ∃ before f after, fields = before ++ f :: after ∧
      t.Offends r f e ∧ ∀ g ∈ before, ∀ e', ¬ t.Offends r g e' := by
  induction fields with
  | nil => simp [checkFields]
  | cons g rest ih =>
    unfold checkFields
    constructor
    · intro failed
      cases checked : t.checkField r g with
      | error e' =>
        obtain rfl : e' = e := by simpa [checked] using failed
        exact ⟨[], g, rest, rfl, checkField_error_iff.1 checked, by simp⟩
      | ok _ =>
        obtain ⟨before, f, after, rfl, offence, first⟩ := ih.1 (by simpa [checked] using failed)
        refine ⟨g :: before, f, after, rfl, offence, fun h mem => ?_⟩
        rcases List.mem_cons.1 mem with rfl | mem
        · exact checkField_ok_iff.1 checked
        · exact first h mem
    · rintro ⟨before, f, after, fields, offence, first⟩
      cases before with
      | nil =>
        obtain ⟨rfl, rfl⟩ := List.cons.inj fields
        simp [checkField_error_iff.2 offence]
      | cons h before =>
        obtain ⟨rfl, rest⟩ := List.cons.inj fields
        have checked := checkField_ok_iff.2 (first g List.mem_cons_self)
        have later := ih.2 ⟨before, f, after, rest, offence,
          fun h mem => first h (List.mem_cons_of_mem _ mem)⟩
        simp [checked, later]

theorem declares_iff {name : String} : t.Declares name ↔ t.field? name ≠ none := by
  simp [Declares, field?]

theorem FirstUndeclared.of_find? {name : String}
    (found : (r.keys.find? fun name => (t.field? name).isNone) = some name) :
    t.FirstUndeclared r name := by
  obtain ⟨unknown, before, after, keys, known⟩ := List.find?_eq_some_iff_append.1 found
  have rising : (before ++ name :: after).Pairwise fun a b => compare a b = .lt :=
    keys ▸ List.pairwise_map.2 r.ascending
  obtain ⟨later, -⟩ := List.pairwise_cons.1 (List.pairwise_append.1 rising).2.1
  refine ⟨List.mem_of_find?_eq_some found, fun declared => ?_, fun other listed undeclared => ?_⟩
  · simp [Option.isNone_iff_eq_none.1 unknown, declares_iff] at declared
  · rw [keys, List.mem_append, List.mem_cons] at listed
    rcases listed with listed | same | listed
    · have declared := known other listed
      have found := Option.isSome_iff_ne_none.1 (by simpa using declared)
      exact absurd (declares_iff.2 found) undeclared
    · exact .inl same.symm
    · exact .inr (compareOfLessAndEq_eq_lt.1 (later other listed))

/-- The names of a record rise, so that the first undeclared name that is listed is the least. -/
theorem find?_undeclared_iff {name : String} :
    (r.keys.find? fun name => (t.field? name).isNone) = some name ↔ t.FirstUndeclared r name := by
  refine ⟨.of_find?, fun least => ?_⟩
  cases found : r.keys.find? fun name => (t.field? name).isNone with
  | none =>
    have declared := List.find?_eq_none.1 found name least.listed
    exact absurd (declares_iff.2 (by simpa using declared)) least.undeclared
  | some other =>
    have other' := FirstUndeclared.of_find? found
    rcases least.first other other'.listed other'.undeclared with rfl | below
    · rfl
    · rcases other'.first name least.listed least.undeclared with rfl | above
      · rfl
      · exact absurd above (String.lt_asymm below)

theorem check_error_iff : t.check r = .error e ↔
    (∃ name, t.FirstUndeclared r name ∧ e = .illegal (.unknownField t.name name)) ∨
      t.FirstOffence r e := by
  unfold check
  cases found : r.keys.find? fun name => (t.field? name).isNone with
  | some name =>
    have least := find?_undeclared_iff.1 found
    constructor
    · intro failed
      cases failed
      exact .inl ⟨name, least, rfl⟩
    · rintro (⟨other, least', rfl⟩ | offence)
      · cases found.symm.trans (find?_undeclared_iff.2 least')
        rfl
      · exact absurd (offence.declared name least.listed) least.undeclared
  | none =>
    have declared : ∀ name ∈ r.keys, t.Declares name := fun name listed =>
      declares_iff.2 (by simpa using List.find?_eq_none.1 found name listed)
    constructor
    · exact fun failed => .inr ⟨declared, checkFields_error_iff.1 failed⟩
    · rintro (⟨name, least, -⟩ | offence)
      · exact absurd (declared name least.listed) least.undeclared
      · exact checkFields_error_iff.2 offence.first

theorem check_ok_iff_complete : t.check r = .ok () ↔ t.Complete r := by
  simp only [check_ok_iff, checkField_ok_iff, not_offends_iff, Option.isSome_iff_ne_none,
    ← declares_iff]
  constructor
  · rintro ⟨declared, fields⟩
    exact ⟨declared, fun f listed => (fields f listed).1, fun f listed => (fields f listed).2⟩
  · intro complete
    exact ⟨complete.declared,
      fun f listed => ⟨complete.required f listed, complete.decoded f listed⟩⟩

/-! ### The key of a checked record -/

/-- A key field holds a value of its type's own kind, which is a key unless it is a byte string of
another length. -/
theorem keyOf?_eq_none_iff (complete : t.Complete r) : t.keyOf? r = none ↔
    t.key.type = .binary (some 16) ∧
      ∃ b, r.get? t.key.name = some (.bytes b) ∧ b.length ≠ 16 := by
  have keyed := t.wellFormed.keyType
  obtain ⟨v, present, given⟩ :=
    complete.required t.key t.wellFormed.keyDeclared t.wellFormed.keyRequired
  obtain ⟨w, decoded⟩ := complete.decoded t.key t.wellFormed.keyDeclared v present
  obtain rfl := ScalarType.decode_key keyed decoded
  have own := ScalarType.own_of_decode decoded given
  unfold keyOf?
  rw [present, Option.bind_some]
  generalize t.key.type = type at keyed own
  cases type with
  | tinyInt | smallInt | integer | bigInt =>
    obtain ⟨n, rfl⟩ := own
    simp [EntityKey.ofValue?]
  | string limit =>
    obtain ⟨s, rfl⟩ := own
    simp [EntityKey.ofValue?]
  | binary limit =>
    obtain ⟨b, rfl⟩ := own
    obtain rfl : limit = some 16 := by simpa [ScalarType.isKeyType] using keyed
    simp [EntityKey.ofValue?, Uuid.ofBytes?]
  | boolean | float | double | decimal | date | time | dateTime | other => cases keyed

/-- The check accepts exactly the records that fit the type. When it refuses one, it reports the
least name that is not declared; if all are declared, the first field at fault in the order of
declaration, as missing or with the error of its decoding. An accepted record carries a key, unless
its key is an identifier of another length than 16 bytes. -/
theorem check_reports (t : EntityType) (r : Record) :
    (t.check r = .ok () ↔ t.Complete r) ∧
    (∀ e, t.check r = .error e ↔
      (∃ name, t.FirstUndeclared r name ∧ e = .illegal (.unknownField t.name name)) ∨
        t.FirstOffence r e) ∧
    (t.check r = .ok () → (t.keyOf? r = none ↔ t.key.type = .binary (some 16) ∧
      ∃ b, r.get? t.key.name = some (.bytes b) ∧ b.length ≠ 16)) :=
  ⟨check_ok_iff_complete, fun _ => check_error_iff,
    fun accepted => keyOf?_eq_none_iff (check_ok_iff_complete.1 accepted)⟩

/-! ### Records of one type -/

/-- Named by identifiers, with a label of at most three characters. -/
def parcel : EntityType where
  name := "Parcel"
  table := "parcel"
  fields := [.required "id" (.binary (some 16)), .required "label" (.string (some 3)),
    .optional "weight" .double]
  key := .required "id" (.binary (some 16))
  assignment := .caller
  indexes := []
  wellFormed := {
    named := by decide +kernel
    tabled := by decide +kernel
    fields := ⟨by decide +kernel, by decide +kernel, by decide +kernel⟩
    keyDeclared := by decide +kernel
    keyRequired := rfl
    keyType := rfl
    keyInteger := by simp
    indexes := by simp }

/-- The first record passes without a key that is one; of the two faults of the second one, the
label that is too long is behind the missing identifier; in the third one the name `extra` comes
before everything else. -/
theorem check_reports_parcel :
    let short := OrderedMap.ofList [("id", .bytes [1, 2, 3]), ("label", .text "abc")]
    let long := OrderedMap.ofList [("label", .text "abcd")]
    let unknown := OrderedMap.ofList [("label", .text "abcd"), ("surplus", .int 1),
      ("extra", .null)]
    (parcel.Complete short ∧ parcel.keyOf? short = none) ∧
    parcel.FirstOffence long (.illegal (.missingValue "Parcel" "id")) ∧
    parcel.FirstUndeclared unknown "extra" := by
  intro short long unknown
  obtain ⟨complete, -, key⟩ := check_reports parcel short
  have accepted : parcel.check short = .ok () := by decide +kernel
  refine ⟨⟨complete.1 accepted, (key accepted).2 ⟨rfl, [1, 2, 3], rfl, by decide⟩⟩, ?_, ?_⟩
  · obtain ⟨-, reports, -⟩ := check_reports parcel long
    rcases (reports (.illegal (.missingValue "Parcel" "id"))).1 (by decide +kernel) with
      ⟨name, -, same⟩ | offence
    · cases same
    · exact offence
  · obtain ⟨-, reports, -⟩ := check_reports parcel unknown
    rcases (reports (.illegal (.unknownField "Parcel" "extra"))).1 (by decide +kernel) with
      ⟨name, least, same⟩ | offence
    · cases same
      exact least
    · have undeclared : ¬ ∃ f ∈ parcel.fields, f.name = "extra" := by decide +kernel
      exact absurd (offence.declared "extra" (by decide +kernel)) undeclared

end IdentityMap.EntityType
