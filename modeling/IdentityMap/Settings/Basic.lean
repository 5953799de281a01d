import IdentityMap.Policy
import IdentityMap.Sql.Dialects
/-!
# Settings

What a store is opened with. Every setting has a default, and the counts must not be zero.
-/

namespace IdentityMap

structure Settings where
  /-- The policy for lookups without a preference. -/
  policy : CachePolicy := .cacheFirst
  dialect : Sql.DialectKind := .ansi
  /-- Create the table and the indexes of every type that is registered. -/
  createTables : Bool := true
  /-- The most rows that one insertion carries. -/
  batchSize : Nat := 500
  /-- How many threads a refresh may use. -/
  workers : Nat := 4
deriving DecidableEq, Repr

def Settings.validate (s : Settings) : Except Error Unit :=
  if s.batchSize = 0 then .error (.config "insert_batch_size must be at least 1")
  else if s.workers = 0 then .error (.config "refresh_workers must be at least 1")
  else .ok ()

end IdentityMap
