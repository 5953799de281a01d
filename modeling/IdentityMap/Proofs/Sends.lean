import IdentityMap.Proofs.Gateway
/-!
# Which commands are sent

`RowStore.Sends P` says that between two states of the row store only commands were run for which
`P` holds, in whatever way they were issued. `Gateway.Calls P` says so of two states of a gateway,
and that each call was counted; `Access.Calls P` says it of every run of an access. Of the
operations on a table only the query for the largest key sends `Command.maxKey`.
-/

namespace IdentityMap

variable {σ α β : Type} [RowStore σ]

namespace RowStore

/-- The row store gets from one state to the other by running the statement in one of its four
ways. -/
inductive Runs (s : Sql.Statement) (rows : σ) : σ → Prop
  | query (params : List Value) : Runs s rows (RowStore.query s params rows).2
  | execute (params : List Value) : Runs s rows (RowStore.execute s params rows).2
  | executeBatch (paramSets : List (List Value)) :
    Runs s rows (RowStore.executeBatch s paramSets rows).2
  | insertReturningKey (params : List Value) :
    Runs s rows (RowStore.insertReturningKey s params rows).2

/-- Between the two states of the row store only commands were run for which `P` holds. -/
inductive Sends (P : Sql.Command → Prop) : σ → σ → Prop
  | refl (rows : σ) : Sends P rows rows
  | call {rows next rows' : σ} (s : Sql.Statement) (allowed : P s.command)
    (ran : Runs s rows next) (rest : Sends P next rows') : Sends P rows rows'

namespace Sends

variable {P : Sql.Command → Prop} {rows rows' : σ}

theorem of_eq (same : rows = rows') : Sends P rows rows' := same ▸ .refl rows

theorem single {s : Sql.Statement} (allowed : P s.command) (ran : Runs s rows rows') :
    Sends P rows rows' := .call s allowed ran (.refl rows')

end Sends

end RowStore

/-! ### Calls -/

/-- Between the two states of the gateway there were calls for commands for which `P` holds, and
each of them was counted. -/
inductive Gateway.Calls (P : Sql.Command → Prop) : Gateway σ → Gateway σ → Prop
  | refl (g : Gateway σ) : Calls P g g
  | call {g g' : Gateway σ} {next : σ} (s : Sql.Statement) (allowed : P s.command)
    (ran : RowStore.Runs s g.rows next)
    (rest : Calls P { g with rows := next, roundTrips := g.roundTrips + 1 } g') : Calls P g g'

namespace Gateway.Calls

variable {P Q : Sql.Command → Prop} {g g₁ g' : Gateway σ}

theorem trans (first : Calls P g g₁) (later : Calls P g₁ g') : Calls P g g' := by
  induction first with
  | refl _ => exact later
  | call s allowed ran _ ih => exact .call s allowed ran (ih later)

theorem mono (calls : Calls P g g') (weaker : ∀ c, P c → Q c) : Calls Q g g' := by
  induction calls with
  | refl g => exact .refl g
  | call s allowed ran _ ih => exact .call s (weaker s.command allowed) ran ih

theorem sends (calls : Calls P g g') : RowStore.Sends P g.rows g'.rows := by
  induction calls with
  | refl g => exact .refl g.rows
  | call s allowed ran _ ih => exact .call s allowed ran ih

end Gateway.Calls

/-- However the access runs, it calls the row store only for commands for which `P` holds, and
counts every call. -/
def Access.Calls (P : Sql.Command → Prop) (a : Access σ α) : Prop :=
  ∀ g : Gateway σ, g.Calls P (a g).2

namespace Access.Calls

variable {P : Sql.Command → Prop} {s : Sql.Statement}

theorem pure (a : α) : Calls P (Pure.pure a : Access σ α) := fun g => .refl g

theorem ofExcept (outcome : Except Error α) : Calls P (Access.ofExcept outcome : Access σ α) :=
  fun g => .refl g

theorem dialect : Calls P (Access.dialect : Access σ _) := fun g => .refl g

theorem bind {a : Access σ α} {f : α → Access σ β} (first : Calls P a)
    (next : ∀ x, Calls P (f x)) : Calls P (a >>= f) := by
  intro g
  rcases ran : a g with ⟨e | x, t⟩
  · have called := first g
    rw [ran] at called
    rw [bind_of_error ran]
    exact called
  · have called := first g
    rw [ran] at called
    rw [bind_of_ok ran]
    exact called.trans (next x t)

theorem query (allowed : P s.command) (params : List Value) :
    Calls P (Access.query s params : Access σ _) :=
  fun _ => .call s allowed (.query params) (.refl _)

theorem execute (allowed : P s.command) (params : List Value) :
    Calls P (Access.execute s params : Access σ _) :=
  fun _ => .call s allowed (.execute params) (.refl _)

theorem executeBatch (allowed : P s.command) (paramSets : List (List Value)) :
    Calls P (Access.executeBatch s paramSets : Access σ _) :=
  fun _ => .call s allowed (.executeBatch paramSets) (.refl _)

theorem insertReturningKey (allowed : P s.command) (params : List Value) :
    Calls P (Access.insertReturningKey s params : Access σ _) :=
  fun _ => .call s allowed (.insertReturningKey params) (.refl _)

/-- The statement that an outcome yields is run. -/
theorem ofExcept_bind {outcome : Except Error α} {f : α → Access σ β}
    (next : ∀ x, outcome = .ok x → Calls P (f x)) : Calls P (Access.ofExcept outcome >>= f) := by
  cases outcome with
  | error e => exact fun g => .refl g
  | ok x => exact next x rfl

theorem executeAll {statements : List Sql.Statement} (allowed : ∀ s ∈ statements, P s.command) :
    Calls P (Access.executeAll statements : Access σ _) := by
  induction statements with
  | nil => exact .pure ()
  | cons s rest ih =>
    exact (execute (allowed s List.mem_cons_self) []).bind fun _ =>
      ih fun s listed => allowed s (List.mem_cons_of_mem _ listed)

end Access.Calls

/-! ### Everything but the query for the largest key -/

/-- The command is not a query for the largest key. -/
def Sql.Command.NotMaxKey (c : Command) : Prop := ∀ table key, c ≠ .maxKey table key

namespace TableMapping

open Sql

variable {m : TableMapping}

theorem createIndexes_notMaxKey {d : Dialect} {statements : List Statement}
    (produced : d.createIndexes m = .ok statements) :
    ∀ s ∈ statements, s.command.NotMaxKey := by
  obtain rfl := Dialect.eq_of_createIndexesFrom_eq_ok produced
  intro s listed
  obtain ⟨index, -, rfl⟩ := List.mem_map.1 listed
  simp [Command.NotMaxKey, Dialect.statement]

theorem createSchema_calls : Access.Calls Command.NotMaxKey (m.createSchema : Access σ _) := by
  refine Access.Calls.dialect.bind fun d => .ofExcept_bind fun indexes produced => ?_
  refine .executeAll fun s listed => ?_
  rcases List.mem_cons.1 listed with rfl | listed
  · simp [Command.NotMaxKey, Dialect.createTable, Dialect.statement]
  · exact createIndexes_notMaxKey produced s listed

theorem fetchKeys_calls (keys : List EntityKey) :
    Access.Calls Command.NotMaxKey (m.fetchKeys keys : Access σ _) := by
  unfold fetchKeys
  split
  · exact .pure []
  · refine Access.Calls.dialect.bind fun d => .ofExcept_bind fun s produced => ?_
    refine (Access.Calls.query ?_ _).bind fun rows => .ofExcept _
    rw [Dialect.eq_of_selectKeys_eq_ok produced]
    simp [Command.NotMaxKey, Dialect.statement]

theorem fetchAll_calls : Access.Calls Command.NotMaxKey (m.fetchAll : Access σ _) :=
  Access.Calls.dialect.bind fun d =>
    (Access.Calls.query (by simp [Command.NotMaxKey, Dialect.selectAll, Dialect.statement]) _).bind
      fun _ => .ofExcept _

theorem countRows_calls : Access.Calls Command.NotMaxKey (m.countRows : Access σ _) :=
  Access.Calls.dialect.bind fun d =>
    (Access.Calls.query (by simp [Command.NotMaxKey, Dialect.countRows, Dialect.statement]) _).bind
      fun _ => .ofExcept _

theorem largestKey_calls :
    Access.Calls (· = .maxKey m.table m.keyColumn.name) (m.largestKey : Access σ _) :=
  Access.Calls.dialect.bind fun _ => (Access.Calls.query (by rfl) _).bind fun _ => .ofExcept _

theorem insert_notMaxKey (d : Dialect) : (d.insert m).command.NotMaxKey := by
  simp [Command.NotMaxKey, Dialect.insert, Dialect.statement]

theorem insertRow_calls (r : Record) :
    Access.Calls Command.NotMaxKey (m.insertRow r : Access σ _) := by
  refine Access.Calls.dialect.bind fun d => ?_
  split
  · exact (Access.Calls.insertReturningKey (insert_notMaxKey d) _).bind fun _ =>
      (Access.Calls.ofExcept _).bind fun _ => .pure _
  · exact (Access.Calls.execute (insert_notMaxKey d) _).bind fun _ => .pure _

theorem insertRows_calls (records : List Record) (batch : Nat) :
    Access.Calls Command.NotMaxKey (m.insertRows records batch : Access σ _) := by
  refine Access.Calls.dialect.bind fun d => ?_
  split
  · exact .pure 0
  · exact (insertRow_calls _).bind fun _ => .pure 1
  · split
    · refine .ofExcept_bind fun s produced => .ofExcept_bind fun params _ => .execute ?_ _
      rw [Dialect.eq_of_insertMany_eq_ok produced]
      simp [Command.NotMaxKey, Dialect.statement]
    · exact .executeBatch (insert_notMaxKey d) _

theorem rowExists_calls (key : EntityKey) :
    Access.Calls Command.NotMaxKey (m.rowExists key : Access σ _) :=
  (fetchKeys_calls [key]).bind fun _ => .pure _

theorem updateRow_calls (r : Record) :
    Access.Calls Command.NotMaxKey (m.updateRow r : Access σ _) := by
  refine Access.Calls.dialect.bind fun d => ?_
  split
  · rename_i s produced
    refine .execute ?_ _
    rw [Dialect.eq_of_update_eq_some produced]
    simp [Command.NotMaxKey, Dialect.statement]
  · split
    · exact .ofExcept _
    · exact (rowExists_calls _).bind fun _ => .pure _

theorem deleteRows_calls (keys : List EntityKey) :
    Access.Calls Command.NotMaxKey (m.deleteRows keys : Access σ _) := by
  unfold deleteRows
  split
  · exact .pure 0
  · refine Access.Calls.dialect.bind fun d => .ofExcept_bind fun s produced => .execute ?_ _
    rw [Dialect.eq_of_deleteKeys_eq_ok produced]
    simp [Command.NotMaxKey, Dialect.statement]

theorem deleteAllRows_calls : Access.Calls Command.NotMaxKey (m.deleteAllRows : Access σ _) :=
  Access.Calls.dialect.bind fun d =>
    .execute (by simp [Command.NotMaxKey, Dialect.deleteAll, Dialect.statement]) _

end TableMapping

end IdentityMap
