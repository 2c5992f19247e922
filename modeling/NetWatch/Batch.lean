/-
NetWatch.Batch — one round over the enabled checks, with so many executions at once (`Tick::run`).

The checks of a batch are handed out in order. Each takes a permit and gives it
back when its execution ends, in whatever order that happens and whether it
ends well or not. Once the batch is called off the rest of the checks may be
left where they are; the moment at which that is noticed is open, so that a
check may still be handed out while a permit is free. What runs is always
waited for.

When its time is up a batch goes on, but its executions are told to hurry: they
see the same sign as those of a batch that is called off.

A batch has permits of its own (`Semaphore::new`). There is an end to how many of
them can be kept together, and a batch that asks for more does not begin.
-/
import NetWatch.Check

namespace NetWatch

/-- A batch on its way (`Tick`). -/
structure Batch where
  /-- Checks that have not been handed out, in order. -/
  waiting : List Check
  /-- Checks that have been handed out, in that order. -/
  dispatched : List Check
  /-- Of these, the ones whose execution goes on. -/
  running : List Check
  /-- How many more executions may begin at once. -/
  permits : Nat
  cancelled : Bool
  /-- Whether the time of the batch is up. -/
  overdue : Bool
  /-- Whether the rest of the checks has been left. -/
  abandoned : Bool
  deriving DecidableEq, Repr

/-- The most permits that can be kept together (`Semaphore::MAX_PERMITS`). -/
def maximalPermits : Nat := 2305843009213693951

namespace Batch

/-- A batch at its beginning. -/
def ofChecks (workers : Nat) (checks : List Check) : Batch :=
  ⟨checks, [], [], workers, false, false, false⟩

/-- A batch at its beginning, if its permits can be kept together. -/
def ofChecks? (workers : Nat) (checks : List Check) : Option Batch :=
  if workers ≤ maximalPermits then some (ofChecks workers checks) else none

theorem isSome_ofChecks?_iff {workers : Nat} {checks : List Check} :
    (ofChecks? workers checks).isSome = true ↔ workers ≤ maximalPermits := by
  unfold ofChecks?
  split <;> simp_all

/-- What can happen to a batch. -/
inductive Move where
  /-- The next check is handed out. -/
  | dispatch
  /-- The execution at a place among those that go on comes to its end. -/
  | finish (place : Nat)
  | cancel
  /-- The time of the batch is up. -/
  | expire
  /-- It is noticed that the batch is called off, and the rest is left. -/
  | abandon
  deriving DecidableEq, Repr

/-- Whether checks are still handed out. -/
def isOpen (b : Batch) : Bool :=
  !b.abandoned && b.waiting ≠ []

/-- Whether nothing is left to hand out and nothing goes on. -/
def isDone (b : Batch) : Bool :=
  !b.isOpen && b.running = []

/-- The batch after a move, if the move can be made (the dispatch loop and the tasks of
`Tick::run`). -/
def move? (b : Batch) : Move → Option Batch
  | .dispatch =>
    match b.waiting, b.permits with
    | c :: rest, n + 1 =>
      if b.abandoned then none
      else some
        { b with
          waiting := rest
          dispatched := b.dispatched ++ [c]
          running := b.running ++ [c]
          permits := n }
    | _, _ => none
  | .finish place =>
    if place < b.running.length then
      some { b with running := b.running.eraseIdx place, permits := b.permits + 1 }
    else none
  | .cancel => some { b with cancelled := true }
  | .expire => some { b with overdue := true }
  | .abandon => if b.cancelled && b.isOpen then some { b with abandoned := true } else none

/-! ## A run without disturbance -/

/-- The batch and the most executions that went on at once, when a check is
handed out whenever that can be and otherwise the oldest execution ends. -/
def drive (b : Batch) (peak : Nat) : Batch × Nat :=
  match b with
  | ⟨c :: rest, dispatched, running, n + 1, cancelled, overdue, false⟩ =>
    drive ⟨rest, dispatched ++ [c], running ++ [c], n, cancelled, overdue, false⟩
      (max peak (running.length + 1))
  | ⟨waiting, dispatched, _ :: running, n, cancelled, overdue, abandoned⟩ =>
    drive ⟨waiting, dispatched, running, n + 1, cancelled, overdue, abandoned⟩ peak
  | b => (b, peak)
termination_by 2 * b.waiting.length + b.running.length

end Batch

end NetWatch
