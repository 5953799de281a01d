import IdentityMap.Row
import IdentityMap.Sql.Statement
/-!
# Row stores

A row store runs statements and holds a state of its own. Every call yields an answer and the next
state, also when it fails, so whatever a failing store does is part of the picture.
-/

namespace IdentityMap

class RowStore (σ : Type) where
  /-- Run a statement that answers with rows. -/
  query : Sql.Statement → List Value → σ → Except Error (List Row) × σ
  /-- Run a statement that changes rows; the answer is how many it met. -/
  execute : Sql.Statement → List Value → σ → Except Error Nat × σ
  /-- Run one statement with each of several lists of parameters, all or none of them. -/
  executeBatch : Sql.Statement → List (List Value) → σ → Except Error Nat × σ
  /-- Run an insert; the answer is the key that was generated for the row. -/
  insertReturningKey : Sql.Statement → List Value → σ → Except Error Value × σ

end IdentityMap
