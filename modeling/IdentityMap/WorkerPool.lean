import IdentityMap.Settings.Basic
/-!
# Worker pools

A fixed number of workers takes tasks from a queue of limited length, first come, first served. A
task that the pool cannot take is handed back untouched. After a shutdown was requested no task is
taken any more, and each worker leaves once it finds the queue empty. The pool counts the tasks that
wait, those that workers are at, and those that are done; a task that broke off is done as well.

The pool moves in atomic steps, and what the workers do between them is left to whoever drives the
pool: `submit`, `execute` and `requestShutdown` come from callers, `take?`, `finish?` and `exit?`
from the workers, which go by their numbers. `drain` is one course of the workers' steps, in which
one task is done after the other.
-/

namespace IdentityMap

/-- What a worker is at. -/
inductive Worker (α : Type)
  | idle
  | busy (task : α)
  | gone
deriving DecidableEq, Repr

namespace Worker

variable {α : Type}

def task? : Worker α → Option α
  | idle => none
  | busy task => some task
  | gone => none

def isIdle : Worker α → Bool
  | idle => true
  | busy _ => false
  | gone => false

end Worker

/-- A pool for tasks of type `α`. -/
structure WorkerPool (α : Type) where
  workers : List (Worker α)
  capacity : Nat
  /-- The queue, the next task first. -/
  waiting : List α := []
  queueDepth : Nat := 0
  activeTasks : Nat := 0
  tasksCompleted : Nat := 0
  /-- A shutdown was requested. -/
  closed : Bool := false
deriving DecidableEq, Repr

namespace WorkerPool

variable {α : Type}

def new (workers capacity : Nat) : WorkerPool α :=
  { workers := List.replicate workers .idle, capacity }

/-- A pool as large as the settings ask for, with room for four tasks per worker. -/
def ofSettings (s : Settings) : WorkerPool α := new s.workers (s.workers * 4)

/-- What a caller is told whose task is handed back. -/
def rejection : String := "worker pool queue is full or shut down"

/-- The tasks that workers are at. -/
def active (p : WorkerPool α) : List α := p.workers.filterMap Worker.task?

/-- Queue a task; the task itself if it is handed back. -/
def submit (task : α) (p : WorkerPool α) : Option α × WorkerPool α :=
  if p.closed ∨ p.capacity ≤ p.waiting.length then (some task, p)
  else (none, { p with waiting := p.waiting ++ [task], queueDepth := p.queueDepth + 1 })

/-- Have a task done; what the caller has to run itself, since it was handed back. -/
def execute (task : α) (p : WorkerPool α) : List α × WorkerPool α :=
  let (back, p) := p.submit task
  (back.toList, p)

def requestShutdown (p : WorkerPool α) : WorkerPool α := { p with closed := true }

/-- An idle worker takes the next task. -/
def take? (worker : Nat) (p : WorkerPool α) : Option (α × WorkerPool α) :=
  match p.workers[worker]?, p.waiting with
  | some .idle, task :: rest =>
    some (task, { p with
      workers := p.workers.set worker (.busy task)
      waiting := rest
      queueDepth := p.queueDepth - 1
      activeTasks := p.activeTasks + 1 })
  | _, _ => none

/-- The task that a worker is at ends. The pool makes no difference between one that returns and one
that breaks off. -/
def finish? (worker : Nat) (p : WorkerPool α) : Option (α × WorkerPool α) :=
  match p.workers[worker]? with
  | some (.busy task) =>
    some (task, { p with
      workers := p.workers.set worker .idle
      activeTasks := p.activeTasks - 1
      tasksCompleted := p.tasksCompleted + 1 })
  | _ => none

/-- An idle worker leaves. It looks for a task first, and only then for a shutdown. -/
def exit? (worker : Nat) (p : WorkerPool α) : Option (WorkerPool α) :=
  match p.workers[worker]?, p.waiting with
  | some .idle, [] =>
    if p.closed then some { p with workers := p.workers.set worker .gone } else none
  | _, _ => none

/-- Whoever drains the pool has to wait. -/
def mustWait (p : WorkerPool α) : Bool := 0 < p.queueDepth || 0 < p.activeTasks

/-- Have the waiting tasks done, `limit` of them at most; the tasks in the order in which they were
taken. -/
def drainUpTo : (limit : Nat) → WorkerPool α → List α × WorkerPool α
  | 0, p => ([], p)
  | limit + 1, p =>
    match p.workers.findIdx? Worker.isIdle with
    | none => ([], p)
    | some worker =>
      match (p.take? worker).bind fun (_, p) => p.finish? worker with
      | none => ([], p)
      | some (task, p) =>
        let (others, p) := drainUpTo limit p
        (task :: others, p)

/-- Have all waiting tasks done, if there is a worker to do them. -/
def drain (p : WorkerPool α) : List α × WorkerPool α := drainUpTo p.waiting.length p

/-- The pool's figures for diagnosis. -/
def diagnostic (p : WorkerPool α) : String :=
  "WorkerPool \x7b stats: PoolStats \x7b queue_depth: " ++ toString p.queueDepth
    ++ ", active_tasks: " ++ toString p.activeTasks
    ++ ", tasks_completed: " ++ toString p.tasksCompleted
    ++ ", worker_count: " ++ toString p.workers.length ++ " \x7d \x7d"

end WorkerPool

end IdentityMap
