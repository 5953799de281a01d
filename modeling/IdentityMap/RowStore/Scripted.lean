import IdentityMap.RowStore
/-!
# Scripted row stores

A row store that gives prepared replies, one for each call, and keeps the calls. It does not look at
the statements, so a script can stand for whatever a row store does in one run.
-/

namespace IdentityMap

inductive Reply
  | rows (rows : List Row)
  | count (n : Nat)
  | key (v : Value)
  | failure (e : Error)

inductive CallKind
  | query
  | execute
  | executeBatch
  | insertReturningKey
deriving DecidableEq, Repr

def CallKind.name : CallKind → String
  | query => "query"
  | execute => "execute"
  | executeBatch => "execute_batch"
  | insertReturningKey => "insert_returning_key"

structure Call where
  kind : CallKind
  statement : Sql.Statement
  /-- The parameters of each run of the statement. -/
  paramSets : List (List Value)

structure Script where
  /-- The replies to the next calls. -/
  replies : List Reply := []
  /-- The calls so far. -/
  calls : List Call := []

namespace Script

/-- Answer a call with the next reply, which must be of a kind that the call understands. -/
def answer {α : Type} (call : Call) (read : Reply → Option α) (s : Script) :
    Except Error α × Script :=
  let calls := s.calls ++ [call]
  match s.replies with
  | [] => (.error (.backend "script" "no reply left"), { s with calls })
  | .failure e :: replies => (.error e, { replies, calls })
  | reply :: replies =>
    match read reply with
    | some a => (.ok a, { replies, calls })
    | none => (.error (.backend "script" "wrong kind of reply"), { replies, calls })

def rows? : Reply → Option (List Row)
  | .rows rows => some rows
  | _ => none

def count? : Reply → Option Nat
  | .count n => some n
  | _ => none

def key? : Reply → Option Value
  | .key v => some v
  | _ => none

instance : RowStore Script where
  query s params := answer ⟨.query, s, [params]⟩ rows?
  execute s params := answer ⟨.execute, s, [params]⟩ count?
  executeBatch s paramSets := answer ⟨.executeBatch, s, paramSets⟩ count?
  insertReturningKey s params := answer ⟨.insertReturningKey, s, [params]⟩ key?

end Script

end IdentityMap
