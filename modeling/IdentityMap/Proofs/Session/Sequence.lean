import IdentityMap.Proofs.Keys
import IdentityMap.Proofs.Session.Course
/-!
# Keys taken from sequences

A session takes keys from the sequence of a type whenever it makes new instances of it, and whatever
becomes of the instances. `Session.History` is the history of a session with everything that was
taken: one `Allocation` for every time that keys were asked for. In between, the sequences stay as
they are, and no query for a largest key is sent.
-/

namespace IdentityMap

/-! ### What is taken at a time -/

/-- The keys that come after `last`, in order. -/
def keysAfter : (last : Int64) → (count : Nat) → List Int64
  | _, 0 => []
  | last, count + 1 => (last + 1) :: keysAfter (last + 1) count

/-- What came of asking a sequence for keys. -/
inductive Allocation
  /-- The query for the largest key failed, and no keys were handed out. -/
  | refused (e : Error)
  /-- The sequence started after the largest key of the table, or after 0. -/
  | seeded (largest : Option Int64) (count : Nat)
  /-- The sequence went on after the last key that it had handed out. -/
  | continued (last : Int64) (count : Nat)

namespace Allocation

/-- The key after which the sequence started or went on. -/
def last? : Allocation → Option Int64
  | refused _ => none
  | seeded largest _ => some (largest.getD 0)
  | continued last _ => some last

def count : Allocation → Nat
  | refused _ => 0
  | seeded _ count | continued _ count => count

/-- The keys that were handed out, in order. -/
def keys (a : Allocation) : List Int64 :=
  match a.last? with
  | some last => keysAfter last a.count
  | none => []

end Allocation

theorem EntityType.numbered_eq (t : EntityType) (last : Int64) (values : List Record) :
    t.numbered (last + 1) values =
      (values.zip (keysAfter last values.length)).map fun p => t.withKey p.1 (.int p.2) := by
  induction values generalizing last with
  | nil => rfl
  | cons r rest ih =>
    rw [numbered, ih, List.length_cons, keysAfter, List.zip_cons_cons, List.map_cons]

namespace Session

variable {σ α β : Type} [RowStore σ] {s t s' : Session σ} {m : TableMapping}

/-- The ways in which keys are taken. The row store is asked only where the sequence has not started
yet; if it does not answer, the sequence still has not. -/
inductive Takes (m : TableMapping) (count : Nat) (s s' : Session σ) :
    Except Error Int64 → Allocation → Prop
  | refused (e : Error) (unseeded : s.sequences.get? m.entityType.name = none)
    (asked : m.largestKey s.gateway = (.error e, s'.gateway))
    (sequences : s'.sequences = s.sequences) : Takes m count s s' (.error e) (.refused e)
  | seeded (largest : Option Int64) (unseeded : s.sequences.get? m.entityType.name = none)
    (asked : m.largestKey s.gateway = (.ok largest, s'.gateway))
    (sequences : s'.sequences =
      s.sequences.insert m.entityType.name (largest.getD 0 + Int64.ofNat count)) :
    Takes m count s s' (.ok (largest.getD 0 + 1)) (.seeded largest count)
  | continued (last : Int64) (noted : s.sequences.get? m.entityType.name = some last)
    (unasked : s'.gateway = s.gateway)
    (sequences : s'.sequences =
      s.sequences.insert m.entityType.name (last + Int64.ofNat count)) :
    Takes m count s s' (.ok (last + 1)) (.continued last count)

theorem lastKey_dialect {last : Int64} (found : lastKey m s = (.ok last, t)) :
    t.gateway.dialect = s.gateway.dialect := by
  cases noted : s.sequences.get? m.entityType.name with
  | some last =>
    rw [lastKey_of_some noted] at found
    cases found
    rfl
  | none =>
    rw [lastKey_of_none noted] at found
    obtain ⟨largest, u, asked, done⟩ := bind_ok found
    obtain ⟨_, rfl⟩ := pure_cases done
    exact TableMapping.largestKey_dialect (Work.access_cases asked).1

theorem allocateKeys_continued {last : Int64} (count : Nat)
    (noted : s.sequences.get? m.entityType.name = some last) :
    Takes m count s (allocateKeys m count s).2 (allocateKeys m count s).1
      (.continued last count) := by
  rw [allocateKeys_of_lastKey (lastKey_of_some noted)]
  exact .continued last noted rfl rfl

theorem allocateKeys_refused {e : Error} (count : Nat)
    (unseeded : s.sequences.get? m.entityType.name = none)
    (failed : (m.largestKey s.gateway).1 = .error e) :
    Takes m count s (allocateKeys m count s).2 (allocateKeys m count s).1 (.refused e) := by
  generalize sent : (m.largestKey s.gateway).2 = g
  have asked : m.largestKey s.gateway = (.error e, g) := Prod.ext failed sent
  unfold allocateKeys
  rw [bind_of_error (lastKey_asked unseeded asked)]
  exact .refused e unseeded asked rfl

theorem allocateKeys_seeded {largest : Option Int64} (count : Nat)
    (unseeded : s.sequences.get? m.entityType.name = none)
    (answered : (m.largestKey s.gateway).1 = .ok largest) :
    Takes m count s (allocateKeys m count s).2 (allocateKeys m count s).1
      (.seeded largest count) := by
  generalize sent : (m.largestKey s.gateway).2 = g
  have asked : m.largestKey s.gateway = (.ok largest, g) := Prod.ext answered sent
  rw [allocateKeys_of_lastKey (lastKey_asked unseeded asked)]
  exact .seeded largest unseeded asked rfl

theorem allocateKeys_takes (m : TableMapping) (count : Nat) (s : Session σ) :
    ∃ a, Takes m count s (allocateKeys m count s).2 (allocateKeys m count s).1 a := by
  cases noted : s.sequences.get? m.entityType.name with
  | some last => exact ⟨_, allocateKeys_continued count noted⟩
  | none =>
    cases answered : (m.largestKey s.gateway).1 with
    | error e => exact ⟨_, allocateKeys_refused count noted answered⟩
    | ok largest => exact ⟨_, allocateKeys_seeded count noted answered⟩

/-- Taking keys sends the query for the largest key at most. -/
theorem allocateKeys_sends (m : TableMapping) (count : Nat) (s : Session σ) :
    RowStore.Sends (· = .maxKey m.table m.keyColumn.name) s.gateway.rows
      (allocateKeys m count s).2.gateway.rows := by
  obtain ⟨a, takes⟩ := allocateKeys_takes m count s
  generalize (allocateKeys m count s).2 = s', (allocateKeys m count s).1 = o at takes
  have sent := (TableMapping.largestKey_calls (m := m) s.gateway).sends
  cases takes with
  | refused e _ asked _ =>
    rw [asked] at sent
    exact sent
  | seeded largest _ asked _ =>
    rw [asked] at sent
    exact sent
  | continued last _ unasked _ => exact .of_eq (by rw [unasked])

/-! ### Histories -/

/-- How a session gets from one state to another, with everything that is taken from its sequences
on the way, by type name. -/
inductive History : Session σ → List (String × Allocation) → Session σ → Prop
  | refl (s : Session σ) : History s [] s
  /-- Anything that leaves the sequences alone and does not ask for a largest key. -/
  | aside {s t s' : Session σ} {log : List (String × Allocation)}
    (sequences : t.sequences = s.sequences)
    (sends : RowStore.Sends Sql.Command.NotMaxKey s.gateway.rows t.gateway.rows)
    (rest : History t log s') : History s log s'
  | take {s s' : Session σ} {log : List (String × Allocation)} {a : Allocation}
    (m : TableMapping) (count : Nat)
    (takes : Takes m count s (allocateKeys m count s).2 (allocateKeys m count s).1 a)
    (rest : History (allocateKeys m count s).2 log s') :
    History s ((m.entityType.name, a) :: log) s'

namespace History

variable {log later : List (String × Allocation)}

theorem of_aside (sequences : s'.sequences = s.sequences)
    (sends : RowStore.Sends Sql.Command.NotMaxKey s.gateway.rows s'.gateway.rows) :
    History s [] s' :=
  .aside sequences sends (.refl s')

theorem trans (first : History s log t) (second : History t later s') :
    History s (log ++ later) s' := by
  induction first with
  | refl _ => exact second
  | aside sequences sends _ ih => exact .aside sequences sends (ih second)
  | take m count takes _ ih => exact .take m count takes (ih second)

end History

/-- Every course has a history. -/
theorem Course.history (course : Course s s') : ∃ log, History s log s' := by
  induction course with
  | refl s => exact ⟨[], .refl s⟩
  | calls calls _ ih =>
    obtain ⟨log, history⟩ := ih
    refine ⟨log, .aside ?_ ?_ history⟩
    · rfl
    · exact calls.sends
  | aside gateway sequences _ _ _ ih =>
    obtain ⟨log, history⟩ := ih
    exact ⟨log, .aside sequences (.of_eq (by rw [gateway])) history⟩
  | @take s _ m count _ ih =>
    obtain ⟨a, takes⟩ := allocateKeys_takes m count s
    obtain ⟨log, history⟩ := ih
    exact ⟨_, .take m count takes history⟩

end Session

end IdentityMap
