import IdentityMap.Database.Plan
import IdentityMap.RowStore
/-!
# Databases as row stores

A database runs the command of a statement, whatever the statement's text looks like. A command is
prepared before it is run, and the latest ones are kept prepared: such a command is planned anew
only when it runs, so what is wrong with it shows then.
-/

namespace IdentityMap.Database

/-- The failure of an operation. -/
def failure (operation : String) (r : Refusal) : Error := .backend operation r.message

/-- The command that a text spells out. -/
def commandOf (text : String) (db : Database) : Except Error Sql.Command :=
  match Sql.Command.read? text with
  | some (.command command) => .ok command
  | some (.misfit table columns width) => .error (failure "prepare" (db.misfit table columns width))
  | some .uneven => .error (failure "prepare" .unevenRows)
  | none => .error (failure "prepare" .syntaxError)

/-- Prepare a command, unless it is prepared. -/
def prepare (command : Sql.Command) (db : Database) : Except Error Unit :=
  if command ∈ db.prepared then .ok ()
  else
    match db.plan command with
    | .error r => .error (failure "prepare" r)
    | .ok _ => .ok ()

/-- How many commands are kept prepared. -/
def preparedLimit : Nat := 16

def keep (command : Sql.Command) (db : Database) : Database :=
  { db with prepared := (command :: db.prepared.erase command).take preparedLimit }

/-- Run a prepared command; the rows of its answer. -/
def step (operation : String) (command : Sql.Command) (params : List Value) (db : Database) :
    Except Error (List Row) × Database :=
  let needed := command.paramCount
  if params.length ≠ needed then
    (.error (failure operation (.parameterCount (min params.length (needed + 1)) needed)), db)
  else
    match db.plan command with
    | .error r => (.error (failure operation r), db)
    | .ok p =>
      let (result, db) := db.perform p (params.map Value.toStored)
      (result.mapError (failure operation), db)

/-- Run a prepared command that answers without rows; how many rows the last change met. -/
def change (operation : String) (command : Sql.Command) (params : List Value) (db : Database) :
    Except Error Nat × Database :=
  match db.step operation command params with
  | (.error e, db) => (.error e, db)
  | (.ok [], db) => (.ok db.changed, db)
  | (.ok (_ :: _), db) => (.error (failure operation .rowsReturned), db)

def query (command : Sql.Command) (params : List Value) (db : Database) :
    Except Error (List Row) × Database :=
  match db.prepare command with
  | .error e => (.error e, db)
  | .ok () =>
    let (result, db) := db.step "query" command params
    (result, db.keep command)

def execute (command : Sql.Command) (params : List Value) (db : Database) :
    Except Error Nat × Database :=
  match db.prepare command with
  | .error e => (.error e, db)
  | .ok () =>
    let (result, db) := db.change "execute" command params
    (result, db.keep command)

def changeEach (command : Sql.Command) :
    List (List Value) → Database → Except Error Nat × Database
  | [], db => (.ok 0, db)
  | params :: rest, db =>
    match db.change "execute batch" command params with
    | (.error e, db) => (.error e, db)
    | (.ok n, db) =>
      let (others, db) := changeEach command rest db
      (others.map (n + ·), db)

/-- Run a command with each of several lists of parameters, all or none. What is undone are the
tables, not the memory of the last insert and the last change. -/
def executeBatch (command : Sql.Command) (paramSets : List (List Value)) (db : Database) :
    Except Error Nat × Database :=
  match db.prepare command with
  | .error e => (.error e, db)
  | .ok () =>
    match changeEach command paramSets db with
    | (.ok n, changed) => (.ok n, changed.keep command)
    | (.error e, changed) =>
      (.error e,
        { db with lastInserted := changed.lastInserted, changed := changed.changed }.keep command)

def insertReturningKey (command : Sql.Command) (params : List Value) (db : Database) :
    Except Error Value × Database :=
  match db.prepare command with
  | .error e => (.error e, db)
  | .ok () =>
    let (result, db) := db.change "insert" command params
    (result.map fun _ => .int db.lastInserted, db.keep command)

instance : RowStore Database where
  query s := query s.command
  execute s := execute s.command
  executeBatch s := executeBatch s.command
  insertReturningKey s := insertReturningKey s.command

/-- The database for diagnosis. -/
def diagnostic : String := "SqliteRowStore \x7b .. \x7d"

end IdentityMap.Database
