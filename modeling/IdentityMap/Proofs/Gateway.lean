import IdentityMap.Gateway
import IdentityMap.Proofs.Work
/-!
# Calls of the gateway

What the operations on a table send to the row store. Lookups send queries and nothing else
(`Gateway.Reads`); of the operations that change rows it is said which call they make last, and how
their answer follows from that of the call.
-/

namespace IdentityMap

variable {σ : Type}

namespace Access

variable {α : Type} {g g' : Gateway σ}

theorem call_cases {f : σ → Except Error α × σ} {o : Except Error α}
    (run : (call f : Access σ α) g = (o, g')) :
    f g.rows = (o, g'.rows) ∧ g' = { g with rows := g'.rows, roundTrips := g.roundTrips + 1 } := by
  cases run
  exact ⟨rfl, rfl⟩

theorem call_once {f : σ → Except Error α × σ} {o : Except Error α}
    (run : (call f : Access σ α) g = (o, g')) : g'.roundTrips = g.roundTrips + 1 := by
  rw [(call_cases run).2]

theorem ofExcept_cases {outcome o : Except Error α}
    (run : (ofExcept outcome : Access σ α) g = (o, g')) : o = outcome ∧ g = g' := by
  cases run
  exact ⟨rfl, rfl⟩

theorem ofExcept_ok_bind {β : Type} {a : α} {f : α → Access σ β} :
    (ofExcept (.ok a) >>= f) g = f a g := rfl

/-- Asking for the dialect changes nothing and does not fail. -/
theorem dialect_bind {f : Sql.Dialect → Access σ α} : (dialect >>= f) g = f g.dialect g := rfl

end Access

variable [RowStore σ]

/-! ### Queries -/

/-- A query whose answer is only read is one call, whatever comes of it. -/
theorem Access.query_read {α : Type} (s : Sql.Statement) (params : List Value)
    (read : List Row → Except Error α) (g : Gateway σ) :
    (Access.query s params >>= fun rows => Access.ofExcept (read rows)) g =
      let answer := RowStore.query s params g.rows
      (answer.1.bind read, { g with rows := answer.2, roundTrips := g.roundTrips + 1 }) := by
  rcases asked : RowStore.query s params g.rows with ⟨e | rows, next⟩
  · have called : (Access.query s params : Access σ _) g
        = (.error e, { g with rows := next, roundTrips := g.roundTrips + 1 }) := by
      simp [Access.query, Access.call, asked]
    rw [bind_of_error called]
    rfl
  · have called : (Access.query s params : Access σ _) g
        = (.ok rows, { g with rows := next, roundTrips := g.roundTrips + 1 }) := by
      simp [Access.query, Access.call, asked]
    rw [bind_of_ok called]
    rfl

/-- Between the two states of the gateway there were queries only. -/
inductive Gateway.Reads : Gateway σ → Gateway σ → Prop
  | refl (g : Gateway σ) : Reads g g
  | query {g g₁ g' : Gateway σ} (s : Sql.Statement) (params : List Value)
      (asked : g₁.rows = (RowStore.query s params g.rows).2) (rest : Reads g₁ g') : Reads g g'

namespace Gateway.Reads

variable {g g₁ g' : Gateway σ}

theorem trans (first : Reads g g₁) (later : Reads g₁ g') : Reads g g' := by
  induction first with
  | refl _ => exact later
  | query s params asked _ ih => exact .query s params asked (ih later)

theorem of_query {s : Sql.Statement} {params : List Value} {o : Except Error (List Row)}
    (run : (Access.query s params : Access σ _) g = (o, g')) : Reads g g' := by
  have asked := (Access.call_cases run).1
  exact .query s params (by rw [asked]) (.refl g')

/-- A query whose answer is only read. -/
theorem of_query_bind {α : Type} {s : Sql.Statement} {params : List Value}
    {read : List Row → Except Error α} {o : Except Error α}
    (run : (Access.query s params >>= fun rows => Access.ofExcept (read rows)) g = (o, g')) :
    Reads g g' := by
  rcases bind_cases run with ⟨e, failed, _⟩ | ⟨rows, g₁, answered, rest⟩
  · exact .of_query failed
  · obtain ⟨_, rfl⟩ := Access.ofExcept_cases rest
    exact .of_query answered

end Gateway.Reads

namespace TableMapping

open Gateway

variable {m : TableMapping} {g g' : Gateway σ}

/-- A query is sent unless no keys are asked for, and the answer is what its rows decode to. -/
theorem fetchKeys_cases {keys : List EntityKey} {o : Except Error (List Record)}
    (run : m.fetchKeys keys g = (o, g')) :
    Reads g g' ∧ ∀ records, o = .ok records →
      (keys = [] ∧ records = [] ∧ g = g') ∨
      ∃ rows statement, g.dialect.selectKeys m keys.length = .ok statement ∧
        RowStore.query statement (keys.map EntityKey.toValue) g.rows = (.ok rows, g'.rows) ∧
        m.decodeRows rows = .ok records := by
  unfold fetchKeys at run
  split at run
  · rename_i none
    obtain ⟨rfl, rfl⟩ := pure_cases run
    refine ⟨.refl _, fun records fetched => .inl ⟨none, ?_, rfl⟩⟩
    cases fetched
    rfl
  · rename_i some
    have counted : keys.length ≠ 0 := by simpa using some
    have produced : g.dialect.selectKeys m keys.length = .ok _ := if_neg counted
    rw [Access.dialect_bind, produced, Access.ofExcept_ok_bind] at run
    rcases bind_cases run with ⟨e, failed, rfl⟩ | ⟨rows, g₁, answered, run⟩
    · exact ⟨.of_query failed, by simp⟩
    · obtain ⟨rfl, rfl⟩ := Access.ofExcept_cases run
      refine ⟨.of_query answered, fun records decoded => .inr ⟨rows, _, produced, ?_, decoded⟩⟩
      exact (Access.call_cases answered).1

/-- Fetching keys is one call, and the rows that it answers with are decoded. -/
theorem fetchKeys_eq {keys : List EntityKey} {statement : Sql.Statement}
    (produced : g.dialect.selectKeys m keys.length = .ok statement) :
    m.fetchKeys keys g =
      let answer := RowStore.query statement (keys.map EntityKey.toValue) g.rows
      (answer.1.bind m.decodeRows,
        { g with rows := answer.2, roundTrips := g.roundTrips + 1 }) := by
  have some : keys ≠ [] := by
    rintro rfl
    simp [Sql.Dialect.selectKeys] at produced
  unfold fetchKeys
  rw [if_neg some, Access.dialect_bind, produced, Access.ofExcept_ok_bind, Access.query_read]

/-- What becomes of an answer that the row store has given. -/
theorem fetchKeys_answered {keys : List EntityKey} {statement : Sql.Statement} {rows : List Row}
    {next : σ} (produced : g.dialect.selectKeys m keys.length = .ok statement)
    (answered : RowStore.query statement (keys.map EntityKey.toValue) g.rows = (.ok rows, next)) :
    m.fetchKeys keys g
      = (m.decodeRows rows, { g with rows := next, roundTrips := g.roundTrips + 1 }) := by
  rw [fetchKeys_eq produced, answered]
  rfl

/-- Loading the whole table is one call, and the rows that it answers with are decoded. -/
theorem fetchAll_eq (g : Gateway σ) :
    m.fetchAll g =
      let answer := RowStore.query (g.dialect.selectAll m) [] g.rows
      (answer.1.bind m.decodeRows,
        { g with rows := answer.2, roundTrips := g.roundTrips + 1 }) := by
  unfold fetchAll
  rw [Access.dialect_bind, Access.query_read]

/-- The whole table is one query, and the answer is what its rows decode to. -/
theorem fetchAll_cases {o : Except Error (List Record)} (run : m.fetchAll g = (o, g')) :
    Reads g g' ∧ ∀ records, o = .ok records →
      ∃ rows, RowStore.query (g.dialect.selectAll m) [] g.rows = (.ok rows, g'.rows) ∧
        m.decodeRows rows = .ok records := by
  unfold fetchAll at run
  rw [Access.dialect_bind] at run
  rcases bind_cases run with ⟨e, failed, rfl⟩ | ⟨rows, g₂, answered, run⟩
  · exact ⟨.of_query failed, by simp⟩
  · obtain ⟨rfl, rfl⟩ := Access.ofExcept_cases run
    refine ⟨.of_query answered, fun records decoded => ⟨rows, ?_, decoded⟩⟩
    exact (Access.call_cases answered).1

/-- Counting the rows is one call, and the rows that it answers with hold the count. -/
theorem countRows_eq (g : Gateway σ) :
    m.countRows g =
      let answer := RowStore.query (g.dialect.countRows m) [] g.rows
      (answer.1.bind countIn, { g with rows := answer.2, roundTrips := g.roundTrips + 1 }) := by
  unfold countRows
  rw [Access.dialect_bind, Access.query_read]

theorem countRows_reads {o : Except Error Nat} (run : m.countRows g = (o, g')) : Reads g g' := by
  unfold countRows at run
  rw [Access.dialect_bind] at run
  exact .of_query_bind run

theorem largestKey_reads {o : Except Error (Option Int64)} (run : m.largestKey g = (o, g')) :
    Reads g g' := by
  unfold largestKey at run
  rw [Access.dialect_bind] at run
  exact .of_query_bind run

/-- Asking for the largest key leaves the gateway with its dialect. -/
theorem largestKey_dialect {o : Except Error (Option Int64)} (run : m.largestKey g = (o, g')) :
    g'.dialect = g.dialect := by
  unfold largestKey at run
  rw [Access.dialect_bind] at run
  rcases bind_cases run with ⟨e, failed, _⟩ | ⟨rows, g₁, answered, rest⟩
  · rw [(Access.call_cases failed).2]
  · obtain ⟨_, rfl⟩ := Access.ofExcept_cases rest
    rw [(Access.call_cases answered).2]

/-- A row exists if a query for its key brings a record. -/
theorem rowExists_cases {key : EntityKey} {o : Except Error Bool}
    (run : m.rowExists key g = (o, g')) :
    (∃ e, o = .error e ∧ Reads g g') ∨
    ∃ records, o = .ok (!records.isEmpty) ∧ m.fetchKeys [key] g = (.ok records, g') := by
  unfold rowExists at run
  rcases bind_cases run with ⟨e, failed, rfl⟩ | ⟨records, g₁, fetched, run⟩
  · exact .inl ⟨e, rfl, (fetchKeys_cases failed).1⟩
  · obtain ⟨rfl, rfl⟩ := pure_cases run
    exact .inr ⟨records, rfl, fetched⟩

theorem rowExists_reads {key : EntityKey} {o : Except Error Bool}
    (run : m.rowExists key g = (o, g')) : Reads g g' := by
  rcases rowExists_cases run with ⟨_, _, reads⟩ | ⟨_, _, fetched⟩
  · exact reads
  · exact (fetchKeys_cases fetched).1

/-! ### Changes of rows -/

/-- A row is inserted in one call, and its answer is read for a key if there is one to be
generated. -/
theorem insertRow_cases {r : Record} {o : Except Error (Option EntityKey)}
    (run : m.insertRow r g = (o, g')) :
    (m.keyColumn.generated = false ∧ ∃ answer,
      RowStore.execute (g.dialect.insert m) ((g.dialect.insert m).bind r) g.rows
        = (answer, g'.rows) ∧ o = answer.map fun _ => none) ∨
    (m.keyColumn.generated = true ∧ ∃ answer,
      RowStore.insertReturningKey (g.dialect.insert m) ((g.dialect.insert m).bind r) g.rows
        = (answer, g'.rows) ∧ o = (answer.bind m.reportedKey).map some) := by
  unfold insertRow at run
  rw [Access.dialect_bind] at run
  cases generated : m.keyColumn.generated with
  | false =>
    simp only [generated, Bool.false_eq_true, if_false] at run
    rcases bind_cases run with ⟨e, failed, rfl⟩ | ⟨n, g₁, inserted, done⟩
    · exact .inl ⟨rfl, _, (Access.call_cases failed).1, rfl⟩
    · obtain ⟨rfl, rfl⟩ := pure_cases done
      exact .inl ⟨rfl, _, (Access.call_cases inserted).1, rfl⟩
  | true =>
    simp only [generated, if_true] at run
    rcases bind_cases run with ⟨e, failed, rfl⟩ | ⟨raw, g₁, inserted, read⟩
    · exact .inr ⟨rfl, _, (Access.call_cases failed).1, rfl⟩
    have answered := (Access.call_cases inserted).1
    rcases bind_cases read with ⟨e, failed, rfl⟩ | ⟨key, g₂, reported, done⟩
    · obtain ⟨unusable, rfl⟩ := Access.ofExcept_cases failed
      refine .inr ⟨rfl, _, answered, ?_⟩
      simp [Except.bind, ← unusable, Except.map]
    · obtain ⟨usable, rfl⟩ := Access.ofExcept_cases reported
      obtain ⟨rfl, rfl⟩ := pure_cases done
      refine .inr ⟨rfl, _, answered, ?_⟩
      simp [Except.bind, ← usable, Except.map]

/-- Where no key is generated, an insert is one call and nothing else. -/
theorem insertRow_eq (plain : m.keyColumn.generated = false) (r : Record) :
    m.insertRow r g =
      let answer := RowStore.execute (g.dialect.insert m) ((g.dialect.insert m).bind r) g.rows
      (answer.1.map fun _ => none,
        { g with rows := answer.2, roundTrips := g.roundTrips + 1 }) := by
  have called : (Access.execute (g.dialect.insert m) ((g.dialect.insert m).bind r) : Access σ _) g
      = ((RowStore.execute (g.dialect.insert m) ((g.dialect.insert m).bind r) g.rows).1, { g with
          rows := (RowStore.execute (g.dialect.insert m) ((g.dialect.insert m).bind r) g.rows).2
          roundTrips := g.roundTrips + 1 }) := rfl
  unfold insertRow
  rw [Access.dialect_bind]
  simp only [plain, Bool.false_eq_true, if_false]
  cases answer : (RowStore.execute (g.dialect.insert m) ((g.dialect.insert m).bind r) g.rows).1 with
  | error e => rw [bind_of_error (called.trans (by rw [answer]))]; rfl
  | ok n => rw [bind_of_ok (called.trans (by rw [answer]))]; rfl

/-- Without a generated key column no key is generated. -/
theorem generated_of_insertRow (plain : m.keyColumn.generated = false) {r : Record}
    {generated : Option EntityKey} (inserted : m.insertRow r g = (.ok generated, g')) :
    generated = none := by
  rcases insertRow_cases inserted with ⟨-, answer, -, same⟩ | ⟨generates, -⟩
  · cases answer <;> cases same
    rfl
  · rw [plain] at generates
    cases generates

/-- How several rows are inserted: not at all, as one row, in one statement, or as a batch. -/
theorem insertRows_cases {records : List Record} {batch : Nat} {o : Except Error Nat}
    (run : m.insertRows records batch g = (o, g')) :
    (records = [] ∧ g = g') ∨
    (∃ r answer, records = [r] ∧ m.insertRow r g = (answer, g') ∧ o = answer.map fun _ => 1) ∨
    (∃ e, o = .error e ∧ g = g') ∨
    (∃ statement params, g.dialect.insertMany m records.length = .ok statement ∧
      statement.bindMany records = .ok params ∧
      RowStore.execute statement params g.rows = (o, g'.rows)) ∨
    RowStore.executeBatch (g.dialect.insert m) (records.map (g.dialect.insert m).bind) g.rows
      = (o, g'.rows) := by
  unfold insertRows at run
  rw [Access.dialect_bind] at run
  split at run
  · exact .inl ⟨rfl, (pure_cases run).2⟩
  · rename_i r
    rcases bind_cases run with ⟨e, failed, rfl⟩ | ⟨generated, g₁, inserted, done⟩
    · exact .inr (.inl ⟨r, _, rfl, failed, rfl⟩)
    · obtain ⟨rfl, rfl⟩ := pure_cases done
      exact .inr (.inl ⟨r, _, rfl, inserted, rfl⟩)
  · split at run
    · rcases bind_cases run with ⟨e, failed, rfl⟩ | ⟨statement, g₁, built, run₁⟩
      · exact .inr (.inr (.inl ⟨e, rfl, (Access.ofExcept_cases failed).2⟩))
      obtain ⟨accepted, rfl⟩ := Access.ofExcept_cases built
      rcases bind_cases run₁ with ⟨e, failed, rfl⟩ | ⟨params, g₂, bound, run₂⟩
      · exact .inr (.inr (.inl ⟨e, rfl, (Access.ofExcept_cases failed).2⟩))
      obtain ⟨fitting, rfl⟩ := Access.ofExcept_cases bound
      exact .inr (.inr (.inr (.inl ⟨statement, params, accepted.symm, fitting.symm,
        (Access.call_cases run₂).1⟩)))
    · exact .inr (.inr (.inr (.inr (Access.call_cases run).1)))

/-- An insert of one row is one call, also if it fails. -/
theorem insertRow_once {r : Record} {o : Except Error (Option EntityKey)}
    (run : m.insertRow r g = (o, g')) : g'.roundTrips = g.roundTrips + 1 := by
  unfold insertRow at run
  rw [Access.dialect_bind] at run
  split at run
  · rcases bind_cases run with ⟨_, failed, _⟩ | ⟨raw, g₁, inserted, read⟩
    · exact Access.call_once failed
    have called := Access.call_once inserted
    rcases bind_cases read with ⟨_, failed, _⟩ | ⟨key, g₂, reported, done⟩
    · obtain ⟨-, rfl⟩ := Access.ofExcept_cases failed
      exact called
    · obtain ⟨-, rfl⟩ := Access.ofExcept_cases reported
      obtain ⟨-, rfl⟩ := pure_cases done
      exact called
  · rcases bind_cases run with ⟨_, failed, _⟩ | ⟨_, g₁, inserted, done⟩
    · exact Access.call_once failed
    · obtain ⟨-, rfl⟩ := pure_cases done
      exact Access.call_once inserted

/-- Rows that are inserted together are inserted in one call. -/
theorem insertRows_once {records : List Record} {batch n : Nat} (some : records ≠ [])
    (run : m.insertRows records batch g = (.ok n, g')) : g'.roundTrips = g.roundTrips + 1 := by
  unfold insertRows at run
  rw [Access.dialect_bind] at run
  split at run
  · exact absurd rfl some
  · obtain ⟨_, g₁, inserted, done⟩ := bind_ok run
    obtain ⟨-, rfl⟩ := pure_cases done
    exact insertRow_once inserted
  · split at run
    · obtain ⟨statement, g₁, built, run₁⟩ := bind_ok run
      obtain ⟨-, rfl⟩ := Access.ofExcept_cases built
      obtain ⟨params, g₂, bound, run₂⟩ := bind_ok run₁
      obtain ⟨-, rfl⟩ := Access.ofExcept_cases bound
      exact Access.call_once run₂
    · exact Access.call_once run

/-- A row is updated in one call; where the key is the only column its row is looked up. -/
theorem updateRow_cases {r : Record} {o : Except Error Nat} (run : m.updateRow r g = (o, g')) :
    (∃ statement, g.dialect.update m = some statement ∧
      RowStore.execute statement (statement.bind r) g.rows = (o, g'.rows)) ∨
    (m.valueColumns = [] ∧
      ((∃ e, o = .error e ∧ Reads g g') ∨
        ∃ key records, m.entityType.keyOf? r = some key ∧
          m.fetchKeys [key] g = (.ok records, g') ∧ o = .ok (if records = [] then 0 else 1))) := by
  unfold updateRow at run
  rw [Access.dialect_bind] at run
  cases writes : g.dialect.update m with
  | some statement =>
    simp only [writes] at run
    exact .inl ⟨statement, rfl, (Access.call_cases run).1⟩
  | none =>
    have keyOnly : m.valueColumns = [] := by
      unfold Sql.Dialect.update at writes
      split at writes
      · assumption
      · cases writes
    simp only [writes] at run
    refine .inr ⟨keyOnly, ?_⟩
    cases carries : m.entityType.keyOf? r with
    | none =>
      simp only [carries] at run
      obtain ⟨rfl, rfl⟩ := Access.ofExcept_cases run
      exact .inl ⟨_, rfl, .refl _⟩
    | some key =>
      simp only [carries] at run
      rcases bind_cases run with ⟨e, failed, rfl⟩ | ⟨present, g₁, looked, done⟩
      · rcases rowExists_cases failed with ⟨_, _, reads⟩ | ⟨_, impossible, _⟩
        · exact .inl ⟨e, rfl, reads⟩
        · cases impossible
      obtain ⟨rfl, rfl⟩ := pure_cases done
      rcases rowExists_cases looked with ⟨_, impossible, _⟩ | ⟨records, found, fetched⟩
      · cases impossible
      cases found
      refine .inr ⟨key, records, rfl, fetched, ?_⟩
      cases records <;> simp

theorem deleteRows_cases {keys : List EntityKey} {o : Except Error Nat}
    (run : m.deleteRows keys g = (o, g')) :
    (keys = [] ∧ g = g') ∨
    RowStore.execute
      (g.dialect.statement (.deleteKeys m.table m.keyColumn.name keys.length)
        (Sql.Dialect.keyFields m keys.length) 1)
      (keys.map EntityKey.toValue) g.rows = (o, g'.rows) := by
  unfold deleteRows at run
  split at run
  · rename_i none
    exact .inl ⟨none, (pure_cases run).2⟩
  · rename_i some
    have counted : keys.length ≠ 0 := by simpa using some
    rw [Access.dialect_bind] at run
    simp only [Sql.Dialect.deleteKeys, counted, if_false] at run
    rw [Access.ofExcept_ok_bind] at run
    exact .inr (Access.call_cases run).1

theorem deleteAllRows_cases {o : Except Error Nat} (run : m.deleteAllRows g = (o, g')) :
    RowStore.execute (g.dialect.deleteAll m) [] g.rows = (o, g'.rows) := by
  unfold deleteAllRows at run
  rw [Access.dialect_bind] at run
  exact (Access.call_cases run).1

end TableMapping

end IdentityMap
