/-
NetWatch.Proofs.Schedule.Rounds — what is seen of a schedule.

Whoever watches a schedule sees rounds begin and end, checks being handed out
and their executions coming to an end, and the schedule being called off
(`Sight`). `Schedule.Run` collects what is seen while any moves are made, in any
order. What a schedule keeps about itself is not taken from it: how many
executions go on, and which checks a round has handed out, are read off what was
seen.

A move does one of ten things (`Schedule.Change`), each of which says what is
seen of it; `Schedule.Change.of_move?` is the only place where the moves
themselves are looked into.
-/
import NetWatch.Schedule
import Mathlib.Data.List.Perm.Basic

namespace NetWatch

/-- What is seen of a schedule. -/
inductive Sight where
  /-- A round over these checks begins. -/
  | began (enabled : List Check)
  /-- A check is handed out. -/
  | handedOut (c : Check)
  /-- The execution of a check ends, well or not. -/
  | finished (c : Check)
  /-- The round is over. -/
  | completed
  | calledOff
  deriving DecidableEq, Repr

/-- The checks that were handed out, in that order. -/
def handedOutIn (seen : List Sight) : List Check :=
  seen.filterMap fun
    | .handedOut c => some c
    | _ => none

/-- The checks whose execution came to an end, in that order. -/
def finishedIn (seen : List Sight) : List Check :=
  seen.filterMap fun
    | .finished c => some c
    | _ => none

/-- A round that goes on: the checks it is over, and those handed out so far. -/
structure Round where
  enabled : List Check
  handedOut : List Check
  deriving DecidableEq, Repr

/-- The round that goes on after one more thing is seen. -/
def Round.next (r : Option Round) : Sight → Option Round
  | .began enabled => some ⟨enabled, []⟩
  | .handedOut c => r.map fun r => { r with handedOut := r.handedOut ++ [c] }
  | .completed => none
  | .finished _ | .calledOff => r

/-- The round that goes on, if one does. -/
def roundIn (seen : List Sight) : Option Round :=
  seen.foldl Round.next none

@[simp] theorem handedOutIn_append (seen seen' : List Sight) :
    handedOutIn (seen ++ seen') = handedOutIn seen ++ handedOutIn seen' :=
  List.filterMap_append

@[simp] theorem finishedIn_append (seen seen' : List Sight) :
    finishedIn (seen ++ seen') = finishedIn seen ++ finishedIn seen' :=
  List.filterMap_append

@[simp] theorem roundIn_snoc (seen : List Sight) (x : Sight) :
    roundIn (seen ++ [x]) = Round.next (roundIn seen) x :=
  List.foldl_concat ..

namespace Schedule

/-- What is seen of a move. -/
def sight? (s : Schedule) : Move → Option Sight
  | .tick enabled =>
    if enabled ≠ [] ∧ s.workers ≤ maximalPermits then some (.began enabled) else none
  | .within .dispatch => (s.batch.bind (·.waiting.head?)).map .handedOut
  | .within (.finish place) => (s.batch.bind (·.running[place]?)).map .finished
  | .within _ => none
  | .complete => some .completed
  | .cancel => some .calledOff
  | .quit => none

/-- What may be seen of a schedule from some point on, and the schedule after it. -/
inductive Run (s₀ : Schedule) : List Sight → Schedule → Prop where
  | start : Run s₀ [] s₀
  | step {seen : List Sight} {s s' : Schedule} {m : Move} (hrun : Run s₀ seen s)
    (hmove : s.move? m = some s') : Run s₀ (seen ++ (s.sight? m).toList) s'

theorem Run.trans {s₀ s s' : Schedule} {seen later : List Sight} (h : Run s₀ seen s)
    (h' : Run s later s') : Run s₀ (seen ++ later) s' := by
  induction h' with
  | start => simpa using h
  | step _ hmove ih =>
    rw [← List.append_assoc]
    exact ih.step hmove

/-- The checks whose executions go on. -/
def running (s : Schedule) : List Check :=
  match s.batch with
  | some b => b.running
  | none => []

theorem length_running (s : Schedule) : s.running.length = s.inFlight := by
  unfold running inFlight
  cases s.batch <;> rfl

/-! ## The things that a move can do -/

/-- One thing that happens to a schedule, and what is seen of it. -/
inductive Change (s : Schedule) : Option Sight → Schedule → Prop where
  /-- No check is enabled when an interval begins. -/
  | rest : Change s none s
  | begin {enabled : List Check} (hfree : s.batch = none) :
    Change s (some (.began enabled))
      { s with batch := some { Batch.ofChecks s.workers enabled with cancelled := s.cancelled } }
  | handOut {b : Batch} {c : Check} {rest : List Check} {n : Nat} (hb : s.batch = some b)
    (hwaiting : b.waiting = c :: rest) (hpermits : b.permits = n + 1)
    (hopen : b.abandoned = false) :
    Change s (some (.handedOut c))
      { s with
        batch := some
          { b with
            waiting := rest
            dispatched := b.dispatched ++ [c]
            running := b.running ++ [c]
            permits := n } }
  | finish {b : Batch} {place : Nat} (hb : s.batch = some b) (hplace : place < b.running.length) :
    Change s (some (.finished b.running[place]))
      { s with
        batch := some { b with running := b.running.eraseIdx place, permits := b.permits + 1 } }
  | expire {b : Batch} (hb : s.batch = some b) :
    Change s none { s with batch := some { b with overdue := true } }
  /-- It is noticed that the batch is called off. -/
  | notice {b : Batch} (hb : s.batch = some b) (hcancelled : b.cancelled = true) :
    Change s none { s with batch := some { b with abandoned := true } }
  | complete {b : Batch} (hb : s.batch = some b) (hdone : b.isDone = true) :
    Change s (some .completed) { s with batch := none }
  | cancel :
    Change s (some .calledOff)
      { s with
        cancelled := true
        batch := s.batch.map fun b => { b with cancelled := true } }
  | quit (hcancelled : s.cancelled = true) (hfree : s.batch = none) :
    Change s none { s with ended := true }
  /-- The permits of a batch cannot be kept together. -/
  | breakOff (hfree : s.batch = none) : Change s none { s with broken := true }

namespace Change

variable {s s' : Schedule} {b b' : Batch}

/-- What happens within a batch. -/
theorem of_batch_move? {m : Batch.Move} (hb : s.batch = some b) (hcancel : m ≠ .cancel)
    (h : b.move? m = some b') :
    Change s (s.sight? (.within m)) { s with batch := some b' } := by
  cases m with
  | dispatch =>
    simp only [Batch.move?] at h
    split at h
    · rename_i c rest n hwaiting hpermits
      split at h
      · cases h
      · rename_i hopen
        cases h
        have hsight : s.sight? (.within .dispatch) = some (.handedOut c) := by
          simp [sight?, hb, hwaiting]
        rw [hsight]
        exact .handOut hb hwaiting hpermits (by simpa using hopen)
    · cases h
  | finish place =>
    simp only [Batch.move?] at h
    split at h
    · rename_i hplace
      cases h
      have hsight : s.sight? (.within (.finish place)) = some (.finished b.running[place]) := by
        simp [sight?, hb, hplace]
      rw [hsight]
      exact .finish hb hplace
    · cases h
  | cancel => exact absurd rfl hcancel
  | expire =>
    cases h
    exact .expire hb
  | abandon =>
    simp only [Batch.move?] at h
    split at h
    · rename_i hnoticed
      cases h
      exact .notice hb (Bool.and_eq_true_iff.1 hnoticed).1
    · cases h

/-- **Every move does one of these things**, and what is seen of it is what it does. -/
theorem of_move? {m : Move} (h : s.move? m = some s') : Change s (s.sight? m) s' := by
  cases m with
  | tick enabled =>
    simp only [move?] at h
    split at h
    · cases h
    · rename_i hfree
      have hfree : s.batch = none := by simp at hfree; exact hfree.2
      by_cases hnone : enabled = []
      · rw [if_pos hnone] at h
        cases h
        have hsight : s.sight? (.tick enabled) = none := if_neg fun hbegins => hbegins.1 hnone
        rw [hsight]
        exact .rest
      · rw [if_neg hnone] at h
        by_cases hpermits : s.workers ≤ maximalPermits
        · have hsight : s.sight? (.tick enabled) = some (.began enabled) :=
            if_pos ⟨hnone, hpermits⟩
          rw [Batch.ofChecks?, if_pos hpermits] at h
          cases h
          rw [hsight]
          exact .begin hfree
        · have hsight : s.sight? (.tick enabled) = none := if_neg fun hbegins => hpermits hbegins.2
          rw [Batch.ofChecks?, if_neg hpermits] at h
          cases h
          rw [hsight]
          exact .breakOff hfree
  | within m =>
    have hcancel : m ≠ .cancel := by
      rintro rfl
      cases h
    cases hb : s.batch with
    | none => cases m <;> simp [move?, hb] at h
    | some b =>
      cases hmove : b.move? m with
      | none => cases m <;> simp [move?, hb, hmove] at h
      | some b' =>
        have heq : s' = { s with batch := some b' } := by
          cases m <;> first | exact absurd rfl hcancel | simpa [move?, hb, hmove] using h.symm
        rw [heq]
        exact of_batch_move? hb hcancel hmove
  | complete =>
    simp only [move?] at h
    split at h
    · rename_i hdone
      cases h
      obtain ⟨b, hb, hdone⟩ := (Option.any_eq_true _ _).1 hdone
      exact .complete hb hdone
    · cases h
  | cancel =>
    cases h
    exact .cancel
  | quit =>
    simp only [move?] at h
    split at h
    · rename_i hover
      cases h
      obtain ⟨hgoes, hfree⟩ := Bool.and_eq_true_iff.1 hover
      exact .quit (Bool.and_eq_true_iff.1 hgoes).1 (Option.isNone_iff_eq_none.1 hfree)
    · cases h

end Change

end Schedule

end NetWatch
