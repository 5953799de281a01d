import Mathlib.Data.List.Nodup
import Mathlib.Data.List.Range
import IdentityMap.Proofs.Session.Sequence
import IdentityMap.Proofs.Store.Operation
/-!
# Keys from sequences are fresh

Whatever a store is asked, and wherever the row store fails, no key is taken from a sequence twice.
The reason is in `Allocation.Chain`: what is taken from the sequence of one type, in order, is a
number of failed attempts to start it, one start, and then each time what comes after the last key.
Neither the other sequences nor the fate of the keys play a part in it.
-/

namespace IdentityMap

/-! ### Keys in a row -/

theorem toInt_add_ofNat {last : Int64} {count : Nat}
    (fits : last.toInt + count ≤ Int64.maxValue.toInt) :
    (last + Int64.ofNat count).toInt = last.toInt + count := by
  have low := Int64.le_toInt last
  rw [Int64.toInt_maxValue] at fits
  rw [Int64.toInt_add, Int64.toInt_ofNat', Int64.size, Int.add_bmod_bmod]
  exact Int.bmod_eq_of_le (by omega) (by omega)

theorem toInt_keysAfter {last : Int64} {count : Nat}
    (fits : last.toInt + count ≤ Int64.maxValue.toInt) :
    (keysAfter last count).map Int64.toInt =
      (List.range count).map fun i : Nat => last.toInt + 1 + i := by
  induction count generalizing last with
  | zero => rfl
  | succ count ih =>
    have next : (last + Int64.ofNat 1).toInt = last.toInt + (1 : Nat) :=
      toInt_add_ofNat (by omega)
    have next : (last + 1).toInt = last.toInt + 1 := next
    rw [keysAfter, List.map_cons, ih (by omega), next, List.range_succ_eq_map, List.map_cons,
      List.map_map]
    congr 1
    · simp
    · refine List.map_congr_left fun i _ => ?_
      simp only [Function.comp_apply]
      omega

theorem bounds_of_mem_keysAfter {last key : Int64} {count : Nat}
    (fits : last.toInt + count ≤ Int64.maxValue.toInt) (member : key ∈ keysAfter last count) :
    last < key ∧ key ≤ last + Int64.ofNat count := by
  have listed : key.toInt ∈ (keysAfter last count).map Int64.toInt := List.mem_map_of_mem member
  rw [toInt_keysAfter fits] at listed
  obtain ⟨i, inside, place⟩ := List.mem_map.1 listed
  have below := List.mem_range.1 inside
  rw [Int64.lt_iff_toInt_lt, Int64.le_iff_toInt_le, toInt_add_ofNat fits]
  omega

theorem rising_keysAfter {last : Int64} {count : Nat}
    (fits : last.toInt + count ≤ Int64.maxValue.toInt) :
    (keysAfter last count).Pairwise (· < ·) := by
  have rising : ((keysAfter last count).map Int64.toInt).Pairwise (· < ·) := by
    rw [toInt_keysAfter fits]
    refine List.pairwise_map.2 (List.pairwise_lt_range.imp fun {i j} below => ?_)
    omega
  exact (List.pairwise_map.1 rising).imp fun below => Int64.lt_iff_toInt_lt.2 below

theorem keysAfter_eq (last : Int64) (count : Nat) :
    keysAfter last count = (List.range count).map fun i => last + 1 + Int64.ofNat i := by
  induction count generalizing last with
  | zero => rfl
  | succ count ih =>
    have next : ∀ i, last + 1 + 1 + Int64.ofNat i = last + 1 + Int64.ofNat (i + 1) := fun i => by
      rw [Int64.ofNat_add, Int64.add_assoc (last + 1), Int64.add_comm 1]
      rfl
    rw [keysAfter, ih, List.range_succ_eq_map, List.map_cons, List.map_map]
    simp only [next, Function.comp_def, Nat.succ_eq_add_one]
    simp

theorem ofNat_injective {i j : Nat} (small : i < Int64.size) (small' : j < Int64.size)
    (same : Int64.ofNat i = Int64.ofNat j) : i = j := by
  have numbers := congrArg Int64.toInt same
  rw [Int64.toInt_ofNat', Int64.toInt_ofNat', Int.bmod_def, Int.bmod_def] at numbers
  simp only [Int64.size] at numbers small small'
  omega

/-- Keys in a row are different, also where they run over, unless there are more of them than there
are numbers. -/
theorem nodup_keysAfter (last : Int64) {count : Nat} (fits : count ≤ Int64.size) :
    (keysAfter last count).Nodup := by
  rw [keysAfter_eq]
  refine List.Nodup.map_on (fun i inside j inside' same => ?_) List.nodup_range
  have small := List.mem_range.1 inside
  have small' := List.mem_range.1 inside'
  exact ofNat_injective (by omega) (by omega) ((Int64.add_right_inj (last + 1)).1 same)

/-! ### What is taken from one sequence -/

namespace Allocation

/-- The keys do not run over. -/
def InRange (a : Allocation) : Prop :=
  ∀ last, a.last? = some last → last.toInt + a.count ≤ Int64.maxValue.toInt

/-- What is taken from a sequence one after the other, from the last key that it has handed out to
the one that it has handed out then. -/
inductive Chain : Option Int64 → List Allocation → Option Int64 → Prop
  | nil (last : Option Int64) : Chain last [] last
  | refused {taken : List Allocation} {last' : Option Int64} (e : Error)
    (rest : Chain none taken last') : Chain none (.refused e :: taken) last'
  | seeded {taken : List Allocation} {last' : Option Int64} (largest : Option Int64) (count : Nat)
    (rest : Chain (some (largest.getD 0 + Int64.ofNat count)) taken last') :
    Chain none (.seeded largest count :: taken) last'
  | continued {taken : List Allocation} {last' : Option Int64} (last : Int64) (count : Nat)
    (rest : Chain (some (last + Int64.ofNat count)) taken last') :
    Chain (some last) (.continued last count :: taken) last'

variable {last last' : Option Int64} {taken : List Allocation}

/-- A sequence that has started is never started again. -/
theorem Chain.all_continued {key : Int64} (chain : Chain (some key) taken last') :
    ∀ a ∈ taken, ∃ last count, a = .continued last count := by
  induction taken generalizing key with
  | nil => simp
  | cons a rest ih =>
    cases chain with
    | continued _ count later =>
      intro b listed
      rcases List.mem_cons.1 listed with rfl | listed
      · exact ⟨key, count, rfl⟩
      · exact ih later b listed

theorem rising_append {key : Int64} {count : Nat} {rest : List Int64}
    (fits : key.toInt + count ≤ Int64.maxValue.toInt) (rising : rest.Pairwise (· < ·))
    (above : ∀ k ∈ rest, key + Int64.ofNat count < k) :
    (keysAfter key count ++ rest).Pairwise (· < ·) ∧
      ∀ k ∈ keysAfter key count ++ rest, key < k := by
  have least : key ≤ key + Int64.ofNat count := by
    rw [Int64.le_iff_toInt_le, toInt_add_ofNat fits]
    omega
  refine ⟨List.pairwise_append.2 ⟨rising_keysAfter fits, rising, fun k first k' second => ?_⟩, ?_⟩
  · exact Int64.lt_of_le_of_lt (bounds_of_mem_keysAfter fits first).2 (above k' second)
  · intro k listed
    rcases List.mem_append.1 listed with first | second
    · exact (bounds_of_mem_keysAfter fits first).1
    · exact Int64.lt_of_le_of_lt least (above k second)

/-- The keys of a chain rise, and they are above the last key from before. -/
theorem Chain.rising (chain : Chain last taken last') (within : ∀ a ∈ taken, a.InRange) :
    (taken.flatMap keys).Pairwise (· < ·) ∧
      ∀ key, last = some key → ∀ k ∈ taken.flatMap keys, key < k := by
  induction chain with
  | nil _ => exact ⟨.nil, by simp⟩
  | refused e _ ih =>
    obtain ⟨rising, _⟩ := ih fun a listed => within a (List.mem_cons_of_mem _ listed)
    exact ⟨rising, by simp⟩
  | seeded largest count _ ih =>
    obtain ⟨rising, above⟩ := ih fun a listed => within a (List.mem_cons_of_mem _ listed)
    have fits := within _ List.mem_cons_self _ rfl
    exact ⟨(rising_append fits rising (above _ rfl)).1, by simp⟩
  | continued key count _ ih =>
    obtain ⟨rising, above⟩ := ih fun a listed => within a (List.mem_cons_of_mem _ listed)
    have fits := within _ List.mem_cons_self _ rfl
    obtain ⟨all, least⟩ := rising_append fits rising (above _ rfl)
    refine ⟨all, ?_⟩
    rintro _ ⟨⟩
    exact least

/-- Before a sequence starts there are failed attempts only, and all its keys come after the key
that it starts from. -/
theorem Chain.started (chain : Chain last taken last') (within : ∀ a ∈ taken, a.InRange)
    {before later : List Allocation} {largest : Option Int64} {count : Nat}
    (start : taken = before ++ .seeded largest count :: later) :
    (∀ a ∈ before, ∃ e, a = .refused e) ∧ (∀ a ∈ later, ∃ last n, a = .continued last n) ∧
      ∀ k ∈ taken.flatMap keys, largest.getD 0 < k := by
  induction chain generalizing before with
  | nil _ => simp at start
  | refused e rest ih =>
    cases before with
    | nil => simp at start
    | cons a before =>
      obtain ⟨rfl, same⟩ := List.cons.inj start
      obtain ⟨failed, on, above⟩ :=
        ih (fun a listed => within a (List.mem_cons_of_mem _ listed)) same
      refine ⟨fun a listed => ?_, on, above⟩
      rcases List.mem_cons.1 listed with rfl | listed
      · exact ⟨e, rfl⟩
      · exact failed a listed
  | seeded largest' count' rest _ =>
    cases before with
    | nil =>
      obtain ⟨same, rfl⟩ := List.cons.inj start
      obtain ⟨rfl, rfl⟩ := Allocation.seeded.inj same
      have fits := within _ List.mem_cons_self _ rfl
      obtain ⟨rising, above⟩ :=
        rest.rising fun a listed => within a (List.mem_cons_of_mem _ listed)
      exact ⟨by simp, rest.all_continued, (rising_append fits rising (above _ rfl)).2⟩
    | cons a before =>
      obtain ⟨_, same⟩ := List.cons.inj start
      obtain ⟨_, _, impossible⟩ := rest.all_continued (.seeded largest count) (by simp [same])
      cases impossible
  | continued key count' rest _ =>
    have all := (Chain.continued key count' rest).all_continued
    obtain ⟨_, _, impossible⟩ := all (.seeded largest count) (by simp [start])
    cases impossible

/-- What holds of all that is taken from the sequence of a type, if no key runs over. -/
structure Fresh (last : Option Int64) (taken : List Allocation) (last' : Option Int64) : Prop where
  chain : Chain last taken last'
  rising : (taken.flatMap keys).Pairwise (· < ·)
  consecutive : ∀ a ∈ taken, ∀ key, a.last? = some key →
    a.keys.map Int64.toInt = (List.range a.count).map fun i : Nat => key.toInt + 1 + i
  above : ∀ key, last = some key → ∀ k ∈ taken.flatMap keys, key < k
  started : ∀ before largest count later, taken = before ++ .seeded largest count :: later →
    (∀ a ∈ before, ∃ e, a = .refused e) ∧ (∀ a ∈ later, ∃ last n, a = .continued last n) ∧
      ∀ k ∈ taken.flatMap keys, largest.getD 0 < k

theorem Chain.fresh (chain : Chain last taken last') (within : ∀ a ∈ taken, a.InRange) :
    Fresh last taken last' where
  chain := chain
  rising := (chain.rising within).1
  consecutive a listed key known := by
    unfold keys
    rw [known]
    exact toInt_keysAfter (within a listed key known)
  above := (chain.rising within).2
  started _ _ _ _ start := chain.started within start

end Allocation

/-- What was taken from the sequence of one type. -/
def takenFrom (typeName : String) (log : List (String × Allocation)) : List Allocation :=
  (log.filter fun entry => entry.1 = typeName).map (·.2)

variable {σ τ : Type} [RowStore σ]

namespace Session

variable {s s' : Session σ} {m : TableMapping} {count : Nat} {o : Except Error Int64}
  {a : Allocation} {typeName : String}

theorem Takes.others (takes : Takes m count s s' o a) (other : m.entityType.name ≠ typeName) :
    s'.sequences.get? typeName = s.sequences.get? typeName := by
  cases takes with
  | refused e _ _ sequences => rw [sequences]
  | seeded largest _ _ sequences => rw [sequences, OrderedMap.get?_insert_of_ne _ _ other]
  | continued last _ _ sequences => rw [sequences, OrderedMap.get?_insert_of_ne _ _ other]

theorem Takes.chain {taken : List Allocation} {last' : Option Int64}
    (takes : Takes m count s s' o a)
    (rest : Allocation.Chain (s'.sequences.get? m.entityType.name) taken last') :
    Allocation.Chain (s.sequences.get? m.entityType.name) (a :: taken) last' := by
  cases takes with
  | refused e unseeded _ sequences =>
    rw [sequences, unseeded] at rest
    rw [unseeded]
    exact .refused e rest
  | seeded largest unseeded _ sequences =>
    rw [sequences, OrderedMap.get?_insert_self] at rest
    rw [unseeded]
    exact .seeded largest count rest
  | continued last noted _ sequences =>
    rw [sequences, OrderedMap.get?_insert_self] at rest
    rw [noted]
    exact .continued last count rest

/-- The sequence of a type runs by itself. -/
theorem History.chain {log : List (String × Allocation)} (history : History s log s')
    (typeName : String) :
    Allocation.Chain (s.sequences.get? typeName) (takenFrom typeName log)
      (s'.sequences.get? typeName) := by
  induction history with
  | refl s => exact .nil _
  | aside sequences _ _ ih =>
    rw [sequences] at ih
    exact ih
  | @take s s' log a m count takes rest ih =>
    by_cases own : m.entityType.name = typeName
    · subst own
      have listed : takenFrom m.entityType.name ((m.entityType.name, a) :: log)
          = a :: takenFrom m.entityType.name log := by simp [takenFrom]
      rw [listed]
      exact takes.chain ih
    · have unlisted : takenFrom typeName ((m.entityType.name, a) :: log)
          = takenFrom typeName log := by simp [takenFrom, own]
      rw [unlisted, ← takes.others own]
      exact ih

end Session

/-- Every request has a history. -/
theorem Request.recounted (r : Request) (observed : String → Bool) (s : Session σ) :
    ∃ log, s.History log (r.run observed s).2 := by
  cases looks : r.lookup? with
  | none => exact (r.course looks observed).history
  | some l =>
    rcases ran : (Work.resolve l.typeName : Work σ _) s with ⟨e | ⟨c, m⟩, t⟩
    · obtain ⟨rfl, _⟩ := Work.resolve_cases ran
      rw [r.lookup_unresolved looks ran observed]
      exact ⟨[], .refl s⟩
    · obtain ⟨rfl, _⟩ := Work.resolve_cases ran
      obtain ⟨log, history⟩ := (r.lookup_course looks ran observed).history
      refine ⟨log, Session.History.aside ?_ ?_ history⟩
      · rfl
      · exact .refl _

namespace Store

variable [TriggerHost τ]

theorem Serves.history {P : Request → Prop} {s s' : Store σ τ} (serves : Serves P s s') :
    ∃ log, s.session.History log s'.session := by
  induction serves with
  | refl s => exact ⟨[], .refl _⟩
  | @ask s s' r asked rest ih =>
    obtain ⟨log, history⟩ := r.recounted s.dispatcher.hasTriggers s.session
    obtain ⟨later, on⟩ := ih
    rw [ask_session] at on
    refine ⟨log ++ later, history.trans (Session.History.aside ?_ ?_ on)⟩
    · rfl
    · exact .refl _
  | aside same rest ih =>
    rw [same] at ih
    exact ih

theorem after_history (s : Store σ τ) (ops : List Operation) :
    ∃ log, s.session.History log (s.after ops).session := by
  induction ops generalizing s with
  | nil => exact ⟨[], .refl _⟩
  | cons op rest ih =>
    obtain ⟨log, history⟩ := (op.serves s).history
    obtain ⟨later, on⟩ := ih (op.run s).2
    exact ⟨log ++ later, history.trans on⟩

/-- **Keys from sequences are fresh.** Every run of a store has a history of what is taken from the
sequences. In every history of it, what is taken from the sequence of a type is fresh as long as no
key runs over: the keys rise strictly from the first one handed out to the last one, whatever became
of them, those taken together follow one another, all of them come after the largest key that the
row store answered with, failed queries for it leave the sequence as it was, and after one that
succeeded there are no more. -/
theorem sequences_fresh (s : Store σ τ) (ops : List Operation) :
    (∃ log, s.session.History log (s.after ops).session) ∧
      ∀ log typeName, s.session.History log (s.after ops).session →
        (∀ a ∈ takenFrom typeName log, a.InRange) →
        Allocation.Fresh (s.session.sequences.get? typeName) (takenFrom typeName log)
          ((s.after ops).session.sequences.get? typeName) :=
  ⟨after_history s ops, fun _ typeName history within => (history.chain typeName).fresh within⟩

end Store

/-! ### A store of tickets -/

namespace Sample

/-- Tickets get their numbers from a sequence. -/
def ticket : EntityType where
  name := "Ticket"
  table := "ticket"
  fields := [.required "id" .bigInt, .required "seat" .bigInt]
  key := .required "id" .bigInt
  assignment := .sequence
  indexes := []
  wellFormed := {
    named := by decide +kernel
    tabled := by decide +kernel
    fields := ⟨by decide +kernel, by decide +kernel, by decide +kernel⟩
    keyDeclared := by decide +kernel
    keyRequired := rfl
    keyType := rfl
    keyInteger := fun _ => rfl
    indexes := by simp }

def seat (n : Int64) : Draft := ⟨ticket, .create, OrderedMap.ofList [("seat", .int n)]⟩

/-- A row store whose next calls work or do not work as it is foreseen. -/
structure Foreseen where
  works : List Bool
deriving DecidableEq

def Foreseen.answer {α : Type} (a : α) : Foreseen → Except Error α × Foreseen
  | ⟨true :: later⟩ => (.ok a, ⟨later⟩)
  | ⟨_ :: later⟩ => (.error (.backend "foreseen" "down"), ⟨later⟩)
  | ⟨[]⟩ => (.error (.backend "foreseen" "down"), ⟨[]⟩)

/-- The largest number of a ticket is 7. -/
instance : RowStore Foreseen where
  query _ _ := Foreseen.answer [⟨["max"], [.int 7]⟩]
  execute _ _ := Foreseen.answer 1
  executeBatch _ paramSets := Foreseen.answer paramSets.length
  insertReturningKey _ _ := Foreseen.answer (.int 8)

theorem Foreseen.sends_insert (m : TableMapping) (works : Bool) (later : List Bool) :
    RowStore.Sends Sql.Command.NotMaxKey (Foreseen.mk (works :: later)) ⟨later⟩ := by
  have ran : RowStore.Runs (Sql.Dialect.ansi.insert m) (Foreseen.mk (works :: later)) ⟨later⟩ := by
    cases works <;> exact .execute []
  exact .single (TableMapping.insert_notMaxKey Sql.Dialect.ansi) ran

/-- A store of tickets that has just been opened. -/
def tickets (works : List Bool) : Store Foreseen ScriptedHost where
  session := {
    settings := { createTables := false }
    gateway := { dialect := Sql.Dialect.ansi, rows := ⟨works⟩ } }
  host := {}

end Sample

open Session Sample in
/-- A ticket cannot be sold because the largest number is not known, another one because the row
store does not take it, and a third one because it has no seat. The two that are sold together have
the numbers after those that are gone. -/
theorem Store.sequences_fresh_ticket :
    let s := (tickets [false, true, false, true]).after [.request (.register ticket)]
    let ops : List Operation := [.request (.persist (seat 1)), .request (.persist (seat 1)),
      .request (.persist ⟨ticket, .create, .empty⟩), .request (.persistAll [seat 1, seat 2])]
    let log : List (String × Allocation) := [("Ticket", .refused (.backend "foreseen" "down")),
      ("Ticket", .seeded (some 7) 1), ("Ticket", .continued 8 1), ("Ticket", .continued 9 2)]
    s.session.History log (s.after ops).session ∧
      (∀ a ∈ takenFrom "Ticket" log, a.InRange) ∧
      Allocation.Fresh (s.session.sequences.get? "Ticket") (takenFrom "Ticket" log)
        ((s.after ops).session.sequences.get? "Ticket") ∧
      (takenFrom "Ticket" log).flatMap Allocation.keys = [8, 9, 10, 11] := by
  intro s ops log
  let m : TableMapping := ⟨ticket⟩
  let s₁ := (s.after (ops.take 1)).session
  let s₂ := (s.after (ops.take 2)).session
  let s₃ := (s.after (ops.take 3)).session
  have unanswered : s.session.History [log[0]] s₁ := by
    refine .take m 1 (allocateKeys_refused 1 (by decide +kernel) rfl) (.of_aside ?_ (.of_eq ?_))
    · decide +kernel
    · decide +kernel
  have untaken : s₁.History [log[1]] s₂ := by
    refine .take m 1 (allocateKeys_seeded 1 (by decide +kernel) rfl) (.of_aside ?_ ?_)
    · decide +kernel
    · have before : (allocateKeys m 1 s₁).2.gateway.rows = ⟨[false, true]⟩ := by decide +kernel
      have later : s₂.gateway.rows = ⟨[true]⟩ := by decide +kernel
      rw [before, later]
      exact Foreseen.sends_insert m false [true]
  have unfit : s₂.History [log[2]] s₃ := by
    refine .take m 1 (allocateKeys_continued 1 (by decide +kernel)) (.of_aside ?_ (.of_eq ?_))
    · decide +kernel
    · decide +kernel
  have sold : s₃.History [log[3]] (s.after ops).session := by
    refine .take m 2 (allocateKeys_continued 2 (by decide +kernel)) (.of_aside ?_ ?_)
    · decide +kernel
    · have before : (allocateKeys m 2 s₃).2.gateway.rows = ⟨[true]⟩ := by decide +kernel
      have later : (s.after ops).session.gateway.rows = ⟨[]⟩ := by decide +kernel
      rw [before, later]
      exact Foreseen.sends_insert m true []
  have history : s.session.History log (s.after ops).session :=
    unanswered.trans (untaken.trans (unfit.trans sold))
  have within : ∀ a ∈ takenFrom "Ticket" log, a.InRange := by
    have taken : takenFrom "Ticket" log = [.refused (.backend "foreseen" "down"),
      .seeded (some 7) 1, .continued 8 1, .continued 9 2] := rfl
    simp only [taken, List.forall_mem_cons, Allocation.InRange, Allocation.last?, Option.some.injEq]
    refine ⟨nofun, ?_, ?_, ?_, nofun⟩
    · rintro _ rfl
      decide
    · rintro _ rfl
      decide
    · rintro _ rfl
      decide
  exact ⟨history, within, (sequences_fresh s ops).2 log "Ticket" history within, by decide +kernel⟩

end IdentityMap
