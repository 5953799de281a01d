import IdentityMap.Proofs.OrderedMapLookup
import IdentityMap.Session.Persist
/-!
# Keys of new records

Which keys the records of new instances carry once the checks on their drafts have passed.
-/

namespace IdentityMap.EntityType

variable {t : EntityType}

/-- A record with a key put into it carries this key. -/
@[simp] theorem keyOf?_withKey (t : EntityType) (r : Record) (v : Value) :
    t.keyOf? (t.withKey r v) = EntityKey.ofValue? v := by
  simp [keyOf?, withKey]

theorem requireKey_ok_iff {r : Record} {key : EntityKey} :
    t.requireKey r = .ok key ↔ t.keyOf? r = some key := by
  unfold requireKey
  split <;> simp [*]

/-- Where new records must bring their keys, each brings one of its own. -/
theorem keys_of_requireKeys {seen : List EntityKey} {records : List Record}
    (required : t.requireKeys seen records = .ok ()) :
    ∃ keys : List EntityKey, records.map t.keyOf? = keys.map some ∧ keys.Nodup ∧
      ∀ key ∈ keys, key ∉ seen := by
  induction records generalizing seen with
  | nil => exact ⟨[], rfl, .nil, by simp⟩
  | cons r rest ih =>
    unfold requireKeys at required
    split at required
    · cases required
    · rename_i key carries
      split at required
      · cases required
      · rename_i fresh
        obtain ⟨keys, carried, once, others⟩ := ih required
        refine ⟨key :: keys, ?_, ?_, ?_⟩
        · simp [carried, requireKey_ok_iff.1 carries]
        · refine List.nodup_cons.2 ⟨fun again => ?_, once⟩
          exact others key again List.mem_cons_self
        · intro k listed
          rcases List.mem_cons.1 listed with rfl | listed
          · exact fresh
          · exact fun inSeen => others k listed (List.mem_cons_of_mem _ inSeen)

theorem requireKeys_ok {seen keys : List EntityKey} {records : List Record}
    (carried : records.map t.keyOf? = keys.map some) (once : keys.Nodup)
    (fresh : ∀ key ∈ keys, key ∉ seen) : t.requireKeys seen records = .ok () := by
  induction records generalizing seen keys with
  | nil => rfl
  | cons r rest ih =>
    cases keys with
    | nil => cases carried
    | cons key others =>
      obtain ⟨own, carried⟩ := List.cons.inj carried
      obtain ⟨absent, once⟩ := List.nodup_cons.1 once
      have unseen : ∀ k ∈ others, k ∉ key :: seen := fun k listed inSeen => by
        rcases List.mem_cons.1 inSeen with rfl | inSeen
        · exact absent listed
        · exact fresh k (List.mem_cons_of_mem _ listed) inSeen
      have next := ih carried once unseen
      unfold requireKeys
      rw [requireKey_ok_iff.2 own]
      simp only [if_neg (fresh key List.mem_cons_self), next]

/-- Values that leave the key open carry none. -/
theorem keyOf?_of_rejectKey {r : Record} (vacant : t.rejectKey r = .ok ()) : t.keyOf? r = none := by
  unfold rejectKey at vacant
  unfold keyOf?
  split at vacant
  · rename_i missing
    rw [missing]
    rfl
  · rename_i null
    rw [null]
    rfl
  · cases vacant

theorem rejectKeys_ok_iff {records : List Record} :
    t.rejectKeys records = .ok () ↔ ∀ r ∈ records, t.rejectKey r = .ok () := by
  induction records with
  | nil => simp [rejectKeys]
  | cons r rest ih =>
    unfold rejectKeys
    cases rejected : t.rejectKey r with
    | error e => simp [rejected]
    | ok _ => simp [rejected, ih]

theorem checkAll_ok_iff {records : List Record} :
    t.checkAll records = .ok () ↔ ∀ r ∈ records, t.check r = .ok () := by
  induction records with
  | nil => simp [checkAll]
  | cons r rest ih =>
    unfold checkAll
    cases checked : t.check r with
    | error e => simp [checked]
    | ok _ => simp [checked, ih]

theorem checkFields_ok_iff {r : Record} {fields : List Field} :
    t.checkFields r fields = .ok () ↔ ∀ f ∈ fields, t.checkField r f = .ok () := by
  induction fields with
  | nil => simp [checkFields]
  | cons f rest ih =>
    unfold checkFields
    cases checked : t.checkField r f with
    | error e => simp [checked]
    | ok _ => simp [checked, ih]

/-- A record fits its type if its fields are declared and each declared field passes. -/
theorem check_ok_iff {r : Record} : t.check r = .ok () ↔
    (∀ name ∈ r.keys, (t.field? name).isSome) ∧ ∀ f ∈ t.fields, t.checkField r f = .ok () := by
  rw [← checkFields_ok_iff]
  unfold check
  cases undeclared : r.keys.find? fun name => (t.field? name).isNone with
  | some name =>
    have unknown : (t.field? name).isSome = false := by simpa using List.find?_some undeclared
    refine iff_of_false (by simp) fun passes => ?_
    have declared := passes.1 name (List.mem_of_find?_eq_some undeclared)
    rw [unknown] at declared
    cases declared
  | none =>
    have declared : ∀ name ∈ r.keys, (t.field? name).isSome := by
      simpa [Option.isSome_iff_ne_none] using List.find?_eq_none.1 undeclared
    exact (and_iff_right declared).symm

theorem mem_numbered {first : Int64} {records : List Record} {r : Record}
    (member : r ∈ t.numbered first records) :
    ∃ values ∈ records, ∃ n : Int64, r = t.withKey values (.int n) := by
  induction records generalizing first with
  | nil => cases member
  | cons values rest ih =>
    rcases List.mem_cons.1 member with rfl | member
    · exact ⟨values, List.mem_cons_self, first, rfl⟩
    · obtain ⟨values', listed, numbered⟩ := ih member
      exact ⟨values', List.mem_cons_of_mem _ listed, numbered⟩

theorem numbered_mem (t : EntityType) (first : Int64) {records : List Record} {values : Record}
    (listed : values ∈ records) :
    ∃ n : Int64, t.withKey values (.int n) ∈ t.numbered first records := by
  induction records generalizing first with
  | nil => cases listed
  | cons r rest ih =>
    rcases List.mem_cons.1 listed with rfl | listed
    · exact ⟨first, List.mem_cons_self⟩
    · obtain ⟨n, member⟩ := ih (first + 1) listed
      exact ⟨n, List.mem_cons_of_mem _ member⟩

/-- The key column is generated exactly where the row store assigns the keys. -/
theorem keyColumn_generated (t : EntityType) :
    (TableMapping.mk t).keyColumn.generated = decide (t.assignment = .backend) := by
  simp [TableMapping.keyColumn, columnOf]

theorem keyColumn_plain (assigned : t.assignment ≠ .backend) :
    (TableMapping.mk t).keyColumn.generated = false := by
  simpa [keyColumn_generated] using assigned

end IdentityMap.EntityType
