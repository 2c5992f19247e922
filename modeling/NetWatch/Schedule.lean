/-
NetWatch.Schedule — batch after batch, from the start of the monitor to its end
(`MonitoringScheduler`).

A schedule looks up the enabled checks once in every interval and takes them
through one batch; the next batch does not begin before the last one is done.
It goes on until it is called off, and ends only when no execution goes on. With
more workers than a batch can have permits it breaks off where its first batch
should begin; nothing notices that, and it counts as running until it is stopped.
-/
import NetWatch.Batch

namespace NetWatch

/-- A schedule that has begun. -/
structure Schedule where
  /-- How many executions may go on at once. -/
  workers : Nat
  batch : Option Batch
  cancelled : Bool
  ended : Bool
  /-- Whether the schedule broke off. -/
  broken : Bool
  workers_pos : 1 ≤ workers

namespace Schedule

/-- A schedule at its beginning; without workers it gets one. -/
def start (workers : Nat) : Schedule :=
  ⟨max workers 1, none, false, false, false, by omega⟩

/-- What can happen to a schedule. -/
inductive Move where
  /-- An interval begins, and these checks are enabled. -/
  | tick (enabled : List Check)
  /-- Something happens to the batch that is under way. -/
  | within (m : Batch.Move)
  /-- The batch that is under way is done. -/
  | complete
  | cancel
  /-- It is noticed that the schedule is called off. -/
  | quit
  deriving DecidableEq, Repr

/-- The schedule after a move, if the move can be made. A batch is called off
only together with its schedule. -/
def move? (s : Schedule) : Move → Option Schedule
  | .tick enabled =>
    if s.ended || s.broken || s.batch.isSome then none
    else if enabled = [] then some s
    else
      match Batch.ofChecks? s.workers enabled with
      | some b => some { s with batch := some { b with cancelled := s.cancelled } }
      | none => some { s with broken := true }
  | .within .cancel => none
  | .within m =>
    match s.batch.bind (·.move? m) with
    | some b => some { s with batch := some b }
    | none => none
  | .complete =>
    if s.batch.any (·.isDone) then some { s with batch := none } else none
  | .cancel =>
    some
      { s with
        cancelled := true
        batch := s.batch.map fun b => { b with cancelled := true } }
  | .quit =>
    if s.cancelled && !s.broken && s.batch.isNone then some { s with ended := true } else none

/-- How many executions go on. -/
def inFlight (s : Schedule) : Nat :=
  match s.batch with
  | some b => b.running.length
  | none => 0

end Schedule

/-! ## Starting and stopping -/

/-- What starts and stops schedules (`MonitoringScheduler`). -/
structure Scheduler where
  workers : Nat
  /-- The schedule that was started and not yet stopped. -/
  task : Option Schedule
  /-- Whether an interval has begun whose checks have not been looked up. -/
  due : Bool

namespace Scheduler

/-- A scheduler that has started nothing. -/
def idle (workers : Nat) : Scheduler :=
  ⟨workers, none, false⟩

/-- Starts a schedule, unless one was started that has not been stopped
(`MonitoringScheduler::start`). Its first interval begins at once. -/
def start (s : Scheduler) : Scheduler :=
  match s.task with
  | some _ => s
  | none => { s with task := some (.start s.workers), due := true }

/-- Calls the schedule off; it comes to its end unless it broke off, but keeps its place until it
is stopped. -/
def cancel (s : Scheduler) : Scheduler :=
  { s with
    task := s.task.map fun t => { t with cancelled := true, batch := none, ended := !t.broken }
    due := false }

/-- Calls the schedule off and waits for its end (`MonitoringScheduler::stop`). -/
def stop (s : Scheduler) : Scheduler :=
  { s with task := none, due := false }

/-- Whether a schedule goes on that was started (`is_running`). -/
def isRunning (s : Scheduler) : Bool :=
  s.task.any fun t => !t.ended

/-- Takes the enabled checks through the batch of the interval that has begun, if
one has: the checks that were executed, in the order in which they were handed
out, and how many of them went on at once, if that is more than the `peak` so far. -/
def settle (s : Scheduler) (enabled : List Check) (peak : Nat) : Scheduler × List Check × Nat :=
  match if s.due then s.task.bind (·.move? (.tick enabled)) else none with
  | none => ({ s with due := false }, [], peak)
  | some t =>
    let rested := { s with task := some { t with batch := none }, due := false }
    match t.batch with
    | some b => (rested, (b.drive peak).1.dispatched, (b.drive peak).2)
    | none => (rested, [], peak)

end Scheduler

end NetWatch
