import IdentityMap.WorkerPool
import Mathlib.Data.List.Induction
import Mathlib.Data.List.Perm.Basic
/-!
# What becomes of the tasks of a pool

The callers and the workers of a pool move in any order. A trace lists their moves so far with what
has happened in each of them, and a run is a trace with the pool that it has led to (`Runs`). What a
move can do is said once (`Moved`), and from it that every move keeps the pool and its trace in step
(`InStep.move`): the counters are right, and every task that was accepted is at one place, where it
waits, is active or is completed.
-/

namespace IdentityMap.WorkerPool

open scoped List

variable {α : Type}

/-- How a task ends. -/
inductive Ending
  | returned
  | brokeOff
deriving DecidableEq

/-- A move of a caller, or of a worker. -/
inductive Move (α : Type)
  | submit (task : α)
  | execute (task : α)
  | take (worker : Nat)
  | finish (worker : Nat) (ending : Ending)
  | requestShutdown
  | exit (worker : Nat)
deriving DecidableEq

/-- What happens in a move. -/
inductive Happening (α : Type)
  | queued (task : α)
  | handedBack (task : α)
  /-- The caller runs the task itself. -/
  | ranHere (task : α)
  | taken (worker : Nat) (task : α)
  | finished (worker : Nat) (task : α) (ending : Ending)
  | closing
  | left (worker : Nat)
deriving DecidableEq

/-- Make a move, if it can be made. -/
def move? (p : WorkerPool α) : Move α → Option (Happening α × WorkerPool α)
  | .submit task =>
    match p.submit task with
    | (none, later) => some (.queued task, later)
    | (some back, later) => some (.handedBack back, later)
  | .execute task =>
    match p.execute task with
    | ([], later) => some (.queued task, later)
    | (mine :: _, later) => some (.ranHere mine, later)
  | .take worker => (p.take? worker).map fun (task, later) => (.taken worker task, later)
  | .finish worker ending =>
    (p.finish? worker).map fun (task, later) => (.finished worker task ending, later)
  | .requestShutdown => some (.closing, p.requestShutdown)
  | .exit worker => (p.exit? worker).map fun later => (.left worker, later)

/-- Moves with what has happened in them, the first one first. -/
abbrev Trace (α : Type) := List (Move α × Happening α)

/-- Any moves one after the other lead from a pool to another one. -/
inductive Runs (start : WorkerPool α) : Trace α → WorkerPool α → Prop
  | start : Runs start [] start
  | move {trace : Trace α} {p later : WorkerPool α} {m : Move α} {h : Happening α}
    (before : Runs start trace p) (made : p.move? m = some (h, later)) :
    Runs start (trace ++ [(m, h)]) later

/-! ### What a move does -/

/-- The pool cannot take a task. -/
def Refuses (p : WorkerPool α) : Prop := p.closed = true ∨ p.capacity ≤ p.waiting.length

/-- The pool when a task has been queued. -/
def queue (task : α) (p : WorkerPool α) : WorkerPool α :=
  { p with waiting := p.waiting ++ [task], queueDepth := p.queueDepth + 1 }

/-- The moves that can be made, each with what it does. -/
inductive Moved (p : WorkerPool α) : Move α → Happening α → WorkerPool α → Prop
  | submitted {task : α} (accepts : ¬p.Refuses) :
    Moved p (.submit task) (.queued task) (p.queue task)
  | handedBack {task : α} (refuses : p.Refuses) : Moved p (.submit task) (.handedBack task) p
  | executed {task : α} (accepts : ¬p.Refuses) :
    Moved p (.execute task) (.queued task) (p.queue task)
  | ranHere {task : α} (refuses : p.Refuses) : Moved p (.execute task) (.ranHere task) p
  | taken {worker : Nat} {task : α} {rest : List α} (idle : p.workers[worker]? = some .idle)
    (next : p.waiting = task :: rest) :
    Moved p (.take worker) (.taken worker task) { p with
      workers := p.workers.set worker (.busy task)
      waiting := rest
      queueDepth := p.queueDepth - 1
      activeTasks := p.activeTasks + 1 }
  | finished {worker : Nat} {task : α} {ending : Ending}
    (busy : p.workers[worker]? = some (.busy task)) :
    Moved p (.finish worker ending) (.finished worker task ending) { p with
      workers := p.workers.set worker .idle
      activeTasks := p.activeTasks - 1
      tasksCompleted := p.tasksCompleted + 1 }
  | closing : Moved p .requestShutdown .closing { p with closed := true }
  | left {worker : Nat} (idle : p.workers[worker]? = some .idle) (empty : p.waiting = [])
    (closed : p.closed = true) :
    Moved p (.exit worker) (.left worker) { p with workers := p.workers.set worker .gone }

variable {p later : WorkerPool α} {m : Move α} {h : Happening α}

theorem submit_refused (refuses : p.Refuses) (task : α) : p.submit task = (some task, p) :=
  if_pos refuses

theorem submit_accepted (accepts : ¬p.Refuses) (task : α) :
    p.submit task = (none, p.queue task) :=
  if_neg accepts

theorem move?_eq_some_iff : p.move? m = some (h, later) ↔ Moved p m h later := by
  constructor
  · intro made
    cases m with
    | submit task =>
      by_cases refuses : p.Refuses
      · rw [move?, submit_refused refuses] at made
        cases made
        exact .handedBack refuses
      · rw [move?, submit_accepted refuses] at made
        cases made
        exact .submitted refuses
    | execute task =>
      by_cases refuses : p.Refuses
      · rw [move?, execute, submit_refused refuses] at made
        cases made
        exact .ranHere refuses
      · rw [move?, execute, submit_accepted refuses] at made
        cases made
        exact .executed refuses
    | take worker =>
      rw [move?, take?] at made
      split at made
      · rename_i idle next
        cases made
        exact .taken idle next
      · cases made
    | finish worker ending =>
      rw [move?, finish?] at made
      split at made
      · rename_i busy
        cases made
        exact .finished busy
      · cases made
    | requestShutdown =>
      cases made
      exact .closing
    | exit worker =>
      rw [move?, exit?] at made
      split at made
      · rename_i idle empty
        split at made
        · rename_i closed
          cases made
          exact .left idle empty closed
        · cases made
      · cases made
  · rintro (accepts | refuses | accepts | refuses | ⟨idle, next⟩ | busy | _ | ⟨idle, empty, closed⟩)
    · rw [move?, submit_accepted accepts]
    · rw [move?, submit_refused refuses]
    · rw [move?, execute, submit_accepted accepts]
      rfl
    · rw [move?, execute, submit_refused refuses]
      rfl
    · simp [move?, take?, idle, next]
    · simp [move?, finish?, busy]
    · rfl
    · simp [move?, exit?, idle, empty, closed]

/-! ### Tasks in a trace -/

namespace Happening

def queued? : Happening α → Option α
  | queued task => some task
  | _ => none

def ranHere? : Happening α → Option α
  | ranHere task => some task
  | _ => none

def taken? : Happening α → Option α
  | taken _ task => some task
  | _ => none

def finished? : Happening α → Option α
  | finished _ task _ => some task
  | _ => none

end Happening

/-- The tasks that the moves of a trace are about, as `pick` has it. -/
def tasks (pick : Move α → Happening α → Option α) (trace : Trace α) : List α :=
  trace.filterMap fun made => pick made.1 made.2

theorem tasks_concat (pick : Move α → Happening α → Option α) (trace : Trace α) (m : Move α)
    (h : Happening α) : tasks pick (trace ++ [(m, h)]) = tasks pick trace ++ (pick m h).toList := by
  rw [tasks, List.filterMap_append]
  cases picked : pick m h <;> simp [tasks, picked]

/-- The tasks that were queued. -/
def accepted : Trace α → List α := tasks fun _ h => h.queued?

/-- The tasks that were queued for callers who do not run them themselves. -/
def submitted : Trace α → List α := tasks fun
  | .submit _, h => h.queued?
  | _, _ => none

/-- The tasks that callers want to have done in any case. -/
def executed : Trace α → List α := tasks fun
  | .execute task, _ => some task
  | _, _ => none

/-- The tasks that callers ran themselves. -/
def ranHere : Trace α → List α := tasks fun _ h => h.ranHere?

/-- The tasks that workers took. -/
def taken : Trace α → List α := tasks fun _ h => h.taken?

/-- The tasks that workers are done with. -/
def completed : Trace α → List α := tasks fun _ h => h.finished?

/-- Those of them that have ended so. -/
def ended (ending : Ending) : Trace α → List α := tasks fun
  | _, .finished _ task how => if how = ending then some task else none
  | _, _ => none

/-- A task is completed however it ends. -/
theorem length_completed (trace : Trace α) :
    (completed trace).length = (ended .returned trace).length + (ended .brokeOff trace).length := by
  induction trace using List.reverseRecOn with
  | nil => rfl
  | append_singleton rest made ih =>
    obtain ⟨m, h⟩ := made
    simp only [completed, ended, tasks_concat, List.length_append] at ih ⊢
    rw [ih]
    cases h with
    | finished worker task ending =>
      cases ending
      · simp [Happening.finished?]
        omega
      · simp [Happening.finished?]
        omega
    | _ => simp [Happening.finished?]

/-! ### The pool and its trace -/

/-- Another task for one worker is another one among the active tasks. -/
theorem active_set {workers : List (Worker α)} {worker : Nat} {old : Worker α}
    (found : workers[worker]? = some old) (now : Worker α) :
    (old.task?.toList ++ (workers.set worker now).filterMap Worker.task?).Perm
      (now.task?.toList ++ workers.filterMap Worker.task?) := by
  have cons (w : Worker α) (rest : List (Worker α)) : (w :: rest).filterMap Worker.task?
      = w.task?.toList ++ rest.filterMap Worker.task? := by
    cases task : w.task? <;> simp [task]
  induction workers generalizing worker with
  | nil => cases found
  | cons w rest ih =>
    cases worker with
    | zero =>
      cases found
      rw [List.set_cons_zero, cons, cons]
      exact List.perm_append_comm_assoc _ _ _
    | succ worker =>
      rw [List.set_cons_succ, cons, cons]
      refine (List.perm_append_comm_assoc _ _ _).trans ?_
      exact ((ih found).append_left _).trans (List.perm_append_comm_assoc _ _ _)

/-- The active tasks change by the one that is taken or finished. -/
theorem Moved.active (moved : Moved p m h later) :
    (h.finished?.toList ++ later.active).Perm (h.taken?.toList ++ p.active) := by
  cases moved with
  | taken idle next => exact active_set idle (.busy _)
  | finished busy => exact active_set busy .idle
  | left idle empty closed => exact active_set idle .gone
  | _ => exact .refl _

/-- The counters of a pool are right, and no worker has left that is still needed. -/
structure Sound (p : WorkerPool α) : Prop where
  room : p.waiting.length ≤ p.capacity
  depth : p.queueDepth = p.waiting.length
  atWork : p.activeTasks = p.active.length
  gone : .gone ∈ p.workers → p.closed = true ∧ p.waiting = []

theorem sound_new (workers capacity : Nat) : (new workers capacity : WorkerPool α).Sound where
  room := Nat.zero_le _
  depth := rfl
  atWork := by
    have none : (new workers capacity : WorkerPool α).active = [] := by
      simp [new, active, Worker.task?]
    rw [none]
    rfl
  gone := by simp [new]

namespace Sound

theorem queue (sound : p.Sound) (accepts : ¬p.Refuses) (task : α) : (p.queue task).Sound := by
  obtain ⟨isOpen, room⟩ := not_or.1 accepts
  refine ⟨?_, ?_, sound.atWork, fun gone => absurd (sound.gone gone).1 isOpen⟩
  · simp only [WorkerPool.queue, List.length_append, List.length_singleton]
    omega
  · simp only [WorkerPool.queue, List.length_append, List.length_singleton, sound.depth]

/-- Every move keeps it so. -/
theorem move (sound : p.Sound) (moved : Moved p m h later) : later.Sound := by
  obtain ⟨room, depth, atWork, gone⟩ := sound
  have active := moved.active.length_eq
  rw [List.length_append, List.length_append, ← atWork] at active
  cases moved with
  | submitted accepts | executed accepts => exact queue ⟨room, depth, atWork, gone⟩ accepts _
  | handedBack _ | ranHere _ => exact ⟨room, depth, atWork, gone⟩
  | taken idle next =>
    rw [next, List.length_cons] at room depth
    refine ⟨Nat.le_of_succ_le room, by simp [depth], ?_, fun left => ?_⟩
    · show p.activeTasks + 1 = _
      simp only [Happening.finished?, Happening.taken?, Option.toList, List.length_nil,
        List.length_singleton] at active
      omega
    · rcases List.mem_or_eq_of_mem_set left with before | now
      · have none := (gone before).2
        rw [next] at none
        cases none
      · cases now
  | finished busy =>
    refine ⟨room, depth, ?_, fun left => ?_⟩
    · show p.activeTasks - 1 = _
      simp only [Happening.finished?, Happening.taken?, Option.toList, List.length_nil,
        List.length_singleton] at active
      omega
    · rcases List.mem_or_eq_of_mem_set left with before | now
      · exact gone before
      · cases now
  | closing => exact ⟨room, depth, atWork, fun left => ⟨rfl, (gone left).2⟩⟩
  | left idle empty closed =>
    refine ⟨room, depth, ?_, fun _ => ⟨closed, empty⟩⟩
    show p.activeTasks = _
    simp only [Happening.finished?, Happening.taken?, Option.toList, List.length_nil] at active
    omega

end Sound

/-- The tasks of a trace are where the pool has them. -/
structure InStep (trace : Trace α) (p : WorkerPool α) : Prop where
  done : p.tasksCompleted = (completed trace).length
  order : accepted trace = taken trace ++ p.waiting
  places : (taken trace).Perm (completed trace ++ p.active)
  /-- What callers want to have done in any case is queued, or they do it themselves. -/
  called : (ranHere trace ++ accepted trace).Perm (executed trace ++ submitted trace)
  closed : p.closed = true ↔ (.requestShutdown, .closing) ∈ trace

theorem inStep_new (workers capacity : Nat) : InStep [] (new workers capacity : WorkerPool α) where
  done := rfl
  order := rfl
  places := by simp [new, active, taken, completed, tasks, Worker.task?]
  called := .refl _
  closed := by simp [new]

namespace InStep

variable {trace : Trace α}

theorem move (inStep : InStep trace p) (moved : Moved p m h later) :
    InStep (trace ++ [(m, h)]) later := by
  obtain ⟨done, order, places, called, closed⟩ := inStep
  constructor
  case done =>
    rw [completed, tasks_concat, List.length_append, ← completed, ← done]
    cases moved <;> rfl
  case closed => cases moved <;> simp [closed, WorkerPool.queue]
  case order =>
    rw [accepted, taken, tasks_concat, tasks_concat, ← accepted, ← taken, order]
    cases moved with
    | submitted accepts | executed accepts =>
      simp [Happening.queued?, Happening.taken?, WorkerPool.queue]
    | taken idle next => simp [next, Happening.queued?, Happening.taken?]
    | _ => simp [Happening.queued?, Happening.taken?]
  case places =>
    rw [taken, completed, tasks_concat, tasks_concat, ← taken, ← completed, List.append_assoc]
    calc taken trace ++ h.taken?.toList
      _ ~ (completed trace ++ p.active) ++ h.taken?.toList := places.append_right _
      _ ~ completed trace ++ (h.taken?.toList ++ p.active) := by
        rw [List.append_assoc]
        exact List.perm_append_comm.append_left _
      _ ~ completed trace ++ (h.finished?.toList ++ later.active) :=
        moved.active.symm.append_left _
  case called =>
    rw [ranHere, accepted, executed, submitted, tasks_concat, tasks_concat, tasks_concat,
      tasks_concat, ← ranHere, ← accepted, ← executed, ← submitted]
    cases moved with
    | @submitted task accepts =>
      simpa [Happening.ranHere?, Happening.queued?] using called.append_right [task]
    | @executed task accepts =>
      have last := called.cons task
      simpa [Happening.ranHere?, Happening.queued?] using
        (List.perm_append_singleton task _).trans (last.trans List.perm_middle.symm)
    | @ranHere task refuses =>
      have last := called.cons task
      simpa [Happening.ranHere?, Happening.queued?] using
        List.perm_middle.trans (last.trans List.perm_middle.symm)
    | _ => simpa [Happening.ranHere?, Happening.queued?] using called

end InStep

/-! ### Runs -/

/-- No move changes how many workers there are, and how many tasks may wait. -/
theorem Moved.same (moved : Moved p m h later) :
    later.workers.length = p.workers.length ∧ later.capacity = p.capacity := by
  cases moved <;> simp [queue]

namespace Runs

variable {workers capacity : Nat} {trace : Trace α}

theorem same {start : WorkerPool α} (runs : Runs start trace p) :
    p.workers.length = start.workers.length ∧ p.capacity = start.capacity := by
  induction runs with
  | start => exact ⟨rfl, rfl⟩
  | move _ made ih =>
    obtain ⟨size, room⟩ := (move?_eq_some_iff.1 made).same
    exact ⟨size.trans ih.1, room.trans ih.2⟩

theorem sound (runs : Runs (new workers capacity) trace p) : p.Sound := by
  induction runs with
  | start => exact sound_new workers capacity
  | move _ made ih => exact ih.move (move?_eq_some_iff.1 made)

theorem inStep (runs : Runs (new workers capacity) trace p) : InStep trace p := by
  induction runs with
  | start => exact inStep_new workers capacity
  | move _ made ih => exact ih.move (move?_eq_some_iff.1 made)

end Runs

/-- Nobody waits for a pool just where nothing waits in it and nothing is active. -/
theorem Sound.mustWait_iff (sound : p.Sound) :
    p.mustWait = false ↔ p.waiting = [] ∧ p.active = [] := by
  simp [mustWait, sound.depth, sound.atWork]

/-- The tasks that a pool refuses are those that come when it is closed or full. -/
theorem Sound.refuses_iff (sound : p.Sound) :
    p.Refuses ↔ p.closed = true ∨ p.waiting.length = p.capacity :=
  or_congr_right ⟨fun full => Nat.le_antisymm sound.room full, fun full => Nat.le_of_eq full.symm⟩

theorem InStep.accepted_perm {trace : Trace α} (inStep : InStep trace p) :
    (accepted trace).Perm (completed trace ++ p.active ++ p.waiting) := by
  rw [inStep.order]
  exact inStep.places.append_right _

/-- Where all workers have left, there is nothing to be done. -/
theorem Sound.all_gone (sound : p.Sound) (some : p.workers ≠ [])
    (gone : ∀ worker ∈ p.workers, worker = .gone) : p.waiting = [] ∧ p.active = [] := by
  obtain ⟨worker, member⟩ := List.exists_mem_of_ne_nil _ some
  refine ⟨(sound.gone (gone worker member ▸ member)).2, ?_⟩
  refine List.filterMap_eq_nil_iff.2 fun worker member => ?_
  rw [gone worker member]
  rfl

/-- **Every accepted task is done once.** Take a pool with some workers and any number of places in
its queue, and any moves of its callers and workers in any order. The queue is never longer than
that, and the counters are right. The accepted tasks are the completed ones, the active ones and the
waiting ones, each at one place, and they are taken in the order in which they came. All tasks that
workers are done with are counted as completed, however they have ended.

A task is handed back if and only if a shutdown was requested or the queue is full, and it is the
same task, untouched. What a caller wants to have done in any case is done by the caller in just
these cases, and is queued otherwise; so of such tasks and of those that were queued, each is at one
place. A worker leaves only after a shutdown was requested, and only if nothing waits. When all have
left, all accepted tasks are completed. Nobody waits for the pool exactly if nothing waits in it and
nothing is active. -/
theorem every_task_once {workers capacity : Nat} (staffed : 0 < workers) {trace : Trace α}
    (runs : Runs (new workers capacity) trace p) :
    let places := completed trace ++ p.active ++ p.waiting
    let requested := (Move.requestShutdown, Happening.closing) ∈ trace
    let full := p.waiting.length = capacity
    (p.waiting.length ≤ capacity ∧ p.queueDepth = p.waiting.length ∧
      p.activeTasks = p.active.length) ∧
    ((accepted trace).Perm places ∧ ((accepted trace).Nodup → places.Nodup)) ∧
    accepted trace = taken trace ++ p.waiting ∧
    p.tasksCompleted = (ended .returned trace).length + (ended .brokeOff trace).length ∧
    (requested ∨ full → ∀ task,
      p.submit task = (some task, p) ∧ p.execute task = ([task], p)) ∧
    (¬(requested ∨ full) → ∀ task,
      p.submit task = (none, p.queue task) ∧ p.execute task = ([], p.queue task)) ∧
    (ranHere trace ++ places).Perm (executed trace ++ submitted trace) ∧
    (∀ worker later, p.exit? worker = some later → requested ∧ p.waiting = []) ∧
    ((∀ worker ∈ p.workers, worker = .gone) →
      p.waiting = [] ∧ p.active = [] ∧ (completed trace).Perm (accepted trace)) ∧
    (p.mustWait = false ↔ p.waiting = [] ∧ p.active = []) := by
  intro places requested full
  have sound := runs.sound
  have inStep := runs.inStep
  obtain ⟨size, room⟩ : p.workers.length = workers ∧ p.capacity = capacity := by
    simpa [new] using runs.same
  have refuses : p.Refuses ↔ requested ∨ full := by
    rw [sound.refuses_iff, inStep.closed, room]
  have perm : (accepted trace).Perm places := inStep.accepted_perm
  refine ⟨⟨room ▸ sound.room, sound.depth, sound.atWork⟩, ⟨perm, perm.nodup_iff.1⟩, inStep.order,
    inStep.done.trans (length_completed trace), ?refused, ?accepted, ?called, ?exits, ?gone,
    sound.mustWait_iff⟩
  case refused =>
    intro cannot task
    have back := submit_refused (refuses.2 cannot) task
    exact ⟨back, by rw [execute, back]; rfl⟩
  case accepted =>
    intro can task
    have queued := submit_accepted (mt refuses.1 can) task
    exact ⟨queued, by rw [execute, queued]; rfl⟩
  case called => exact (perm.symm.append_left _).trans inStep.called
  case exits =>
    intro worker later exits
    have made : p.move? (.exit worker) = some (.left worker, later) := by simp [move?, exits]
    cases move?_eq_some_iff.1 made with
    | left idle empty closed => exact ⟨inStep.closed.1 closed, empty⟩
  case gone =>
    intro gone
    have some : p.workers ≠ [] := by
      rw [← List.length_pos_iff, size]
      exact staffed
    obtain ⟨empty, inactive⟩ := sound.all_gone some gone
    refine ⟨empty, inactive, ?_⟩
    simpa [places, empty, inactive] using perm.symm

/-- A worker takes a task and breaks it off. Another task waits meanwhile, and a third one, for
which there is no room, is run by its caller. Then the pool is shut down, and the worker leaves when
it is done with the task that waits. -/
theorem every_task_once_three :
    ∃ (trace : Trace Nat) (p : WorkerPool Nat), Runs (new 1 1) trace p ∧
      accepted trace = [1, 2] ∧ ranHere trace = [3] ∧ p.workers = [.gone] ∧
      p.tasksCompleted = 2 ∧ (completed trace).Perm (accepted trace) := by
  have started : Runs (new 1 1 : WorkerPool Nat) [] _ := .start
  have filled := ((started.move (m := .submit 1) rfl).move (m := .take 0) rfl).move
    (m := .submit 2) rfl
  have refused := filled.move (m := .execute 3) rfl
  have closed := (refused.move (m := .finish 0 .brokeOff) rfl).move (m := .requestShutdown) rfl
  have runs := ((closed.move (m := .take 0) rfl).move (m := .finish 0 .returned) rfl).move
    (m := .exit 0) rfl
  obtain ⟨-, -, -, -, -, -, -, -, gone, -⟩ := every_task_once (by decide) runs
  exact ⟨_, _, runs, by decide, by decide, by decide, by decide, (gone (by decide)).2.2⟩

/-! ### Workers that go on -/

/-- The moves that workers have left: two for a task that waits, one for a task that is active. -/
def work (p : WorkerPool α) : Nat := 2 * p.waiting.length + p.active.length

/-- A worker takes a task or is done with one. -/
inductive Works : Move α → Prop
  | take (worker : Nat) : Works (.take worker)
  | finish (worker : Nat) (ending : Ending) : Works (.finish worker ending)

/-- Such a move leaves less work, and queues no task. -/
theorem Works.moved (works : Works m) (moved : Moved p m h later) :
    later.work < p.work ∧ h.queued? = none := by
  have active := moved.active.length_eq
  rw [List.length_append, List.length_append] at active
  cases moved with
  | taken idle next =>
    refine ⟨?_, rfl⟩
    simp only [Happening.finished?, Happening.taken?, Option.toList, List.length_nil,
      List.length_singleton] at active
    simp only [work, next, List.length_cons]
    omega
  | finished busy =>
    refine ⟨?_, rfl⟩
    simp only [Happening.finished?, Happening.taken?, Option.toList, List.length_nil,
      List.length_singleton] at active
    simp only [work]
    omega
  | _ => cases works

/-- As long as a pool must be waited for, some worker can go on. -/
theorem Sound.works (sound : p.Sound) (staffed : p.workers ≠ []) (must : p.mustWait = true) :
    ∃ m h later, Works m ∧ Moved p m h later := by
  by_cases busy : p.active = []
  · -- Something waits, so the first worker has not left.
    obtain ⟨task, rest, next⟩ : ∃ task rest, p.waiting = task :: rest := by
      refine List.exists_cons_of_ne_nil fun empty => ?_
      rw [sound.mustWait_iff.2 ⟨empty, busy⟩] at must
      cases must
    obtain ⟨worker, others, workers⟩ := List.exists_cons_of_ne_nil staffed
    have first : p.workers[0]? = some worker := by simp [workers]
    have member : worker ∈ p.workers := by simp [workers]
    cases worker with
    | idle => exact ⟨.take 0, _, _, .take 0, .taken first next⟩
    | busy task => exact ⟨.finish 0 .returned, _, _, .finish 0 .returned, .finished first⟩
    | gone =>
      rw [(sound.gone member).2] at next
      cases next
  · obtain ⟨task, listed⟩ := List.exists_mem_of_ne_nil _ busy
    obtain ⟨worker, member, isBusy⟩ := List.mem_filterMap.1 listed
    obtain ⟨place, found⟩ := List.mem_iff_getElem?.1 member
    cases worker with
    | busy task => exact ⟨.finish place .returned, _, _, .finish place .returned, .finished found⟩
    | idle => cases isBusy
    | gone => cases isBusy

/-- However far a pool has got, its workers can complete everything that it has accepted. -/
theorem Runs.completes {workers capacity : Nat} (staffed : 0 < workers) {trace : Trace α}
    (runs : Runs (new workers capacity) trace p) :
    ∃ more later, Runs (new workers capacity) (trace ++ more) later ∧
      (∀ made ∈ more, Works made.1) ∧ later.waiting = [] ∧ later.active = [] ∧
      (completed (trace ++ more)).Perm (accepted trace) := by
  induction left : p.work using Nat.strongRecOn generalizing p trace with
  | ind left' ih =>
    subst left
    have inStep := runs.inStep
    cases must : p.mustWait with
    | false =>
      obtain ⟨empty, inactive⟩ := runs.sound.mustWait_iff.1 must
      have perm := inStep.accepted_perm.symm
      rw [empty, inactive, List.append_nil, List.append_nil] at perm
      refine ⟨[], p, ?_, by simp, empty, inactive, ?_⟩ <;> rwa [List.append_nil]
    | true =>
      have staffed : p.workers ≠ [] := by
        rw [← List.length_pos_iff, runs.same.1]
        simpa [new] using staffed
      obtain ⟨m, h, next, works, moved⟩ := runs.sound.works staffed must
      obtain ⟨less, silent⟩ := works.moved moved
      have moves := runs.move (move?_eq_some_iff.2 moved)
      obtain ⟨more, last, runs, others, empty, inactive, perm⟩ := ih _ less moves rfl
      refine ⟨(m, h) :: more, last, ?_, ?_, empty, inactive, ?_⟩
      · rwa [List.append_cons]
      · exact List.forall_mem_cons.2 ⟨works, others⟩
      · rw [accepted, tasks_concat, ← accepted, silent, Option.toList_none, List.append_nil] at perm
        rwa [List.append_cons]

/-- Where some worker is idle, draining has it do all waiting tasks, one after the other. -/
theorem drain_eq {worker : Nat} (idle : p.workers.findIdx? Worker.isIdle = some worker) :
    p.drain = (p.waiting, { p with
      waiting := []
      queueDepth := p.queueDepth - p.waiting.length
      tasksCompleted := p.tasksCompleted + p.waiting.length }) := by
  unfold drain
  generalize tasks : p.waiting = waiting
  induction waiting generalizing p with
  | nil => 
    cases p
    cases tasks
    rfl
  | cons task rest ih =>
    have found : p.workers[worker]? = some .idle := by
      obtain ⟨inside, isIdle, -⟩ := List.findIdx?_eq_some_iff_getElem.1 idle
      rw [List.getElem?_eq_getElem inside]
      revert isIdle
      cases p.workers[worker] <;> simp [Worker.isIdle]
    have inside : worker < p.workers.length := (List.getElem?_eq_some_iff.1 found).1
    have again : (p.workers.set worker (.busy task)).set worker .idle = p.workers := by
      obtain ⟨_, isIdle⟩ := List.getElem?_eq_some_iff.1 found
      rw [List.set_set, ← isIdle, List.set_getElem_self]
    rw [List.length_cons, drainUpTo, idle]
    simp only [take?, found, tasks, Option.bind_some, finish?, List.getElem?_set_self inside, again]
    have others := ih (p := { p with
      waiting := rest
      queueDepth := p.queueDepth - 1
      tasksCompleted := p.tasksCompleted + 1 }) idle rfl
    rw [Nat.add_sub_cancel, others, Nat.sub_sub, Nat.add_assoc, Nat.add_comm 1]

end IdentityMap.WorkerPool
