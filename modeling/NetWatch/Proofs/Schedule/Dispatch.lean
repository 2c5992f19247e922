/-
NetWatch.Proofs.Schedule.Dispatch — how many executions go on at once, and which checks a round
hands out (`Tick::run`).

Every round has permits of its own, so that the permits of one round say nothing
about the executions of another. That the number of workers bounds the
executions of the whole schedule rests on two things: within a round a permit is
either free or with an execution, and no round begins before the executions of
the last one have ended (`Schedule.Accounted`).

Main statement: `Schedule.Run.bounded_dispatch`, for any moves in any order.
-/
import NetWatch.Proofs.Schedule.Rounds

namespace NetWatch

/-- A batch that is done has no executions, and nothing waits unless the rest was left. -/
theorem Batch.of_isDone {b : Batch} (h : b.isDone = true) :
    b.running = [] ∧ (b.abandoned = true ∨ b.waiting = []) := by
  simp only [Batch.isDone, Batch.isOpen, Bool.and_eq_true] at h
  obtain ⟨hclosed, hrunning⟩ := h
  refine ⟨by simpa using hrunning, ?_⟩
  cases habandoned : b.abandoned with
  | true => exact .inl rfl
  | false => exact .inr (by simpa [habandoned] using hclosed)

namespace Schedule

variable {workers : Nat} {seen : List Sight} {s s' : Schedule} {b : Batch}

/-- What holds of the batch of a schedule, given the round that is seen to go on. -/
structure Tallied (s : Schedule) (b : Batch) (r : Round) : Prop where
  permits : b.permits + b.running.length = s.workers
  enabled : b.dispatched ++ b.waiting = r.enabled
  handedOut : b.dispatched = r.handedOut
  cancelled : b.cancelled = s.cancelled
  abandoned : b.abandoned = true → s.cancelled = true

/-- What holds of a schedule, given what was seen of it. -/
structure Accounted (workers : Nat) (seen : List Sight) (s : Schedule) : Prop where
  workers : s.workers = max workers 1
  /-- What was handed out has ended or goes on. -/
  executions : (handedOutIn seen).Perm (finishedIn seen ++ s.running)
  calledOff : s.cancelled = true ↔ .calledOff ∈ seen
  /-- There is a batch just while a round goes on. -/
  round : Option.Rel (Tallied s) s.batch (roundIn seen)

theorem running_of_batch (hb : s.batch = some b) : s.running = b.running := by
  simp [running, hb]

theorem running_of_no_batch (hb : s.batch = none) : s.running = [] := by
  simp [running, hb]

section

variable {o : Option Round}

theorem round_of_batch (h : Option.Rel (Tallied s) s.batch o) (hb : s.batch = some b) :
    ∃ r, o = some r ∧ Tallied s b r := by
  rw [hb] at h
  cases h with
  | some ht => exact ⟨_, rfl, ht⟩

theorem round_of_no_batch (h : Option.Rel (Tallied s) s.batch o) (hb : s.batch = none) :
    o = none := by
  rw [hb] at h
  cases h
  rfl

end

/-! ## Step after step -/

namespace Change

variable {x : Option Sight}

theorem workers_eq (hchange : Change s x s') : s'.workers = s.workers := by
  cases hchange <;> rfl

theorem calledOff_iff (hchange : Change s x s') (h : s.cancelled = true ↔ .calledOff ∈ seen) :
    s'.cancelled = true ↔ .calledOff ∈ seen ++ x.toList := by
  cases hchange
  case cancel => simp
  all_goals simpa using h

/-- Nothing that happens loses an execution. A new batch takes the place of none,
and a batch that is left has no executions. -/
theorem executions_perm (hchange : Change s x s')
    (h : (handedOutIn seen).Perm (finishedIn seen ++ s.running)) :
    (handedOutIn (seen ++ x.toList)).Perm (finishedIn (seen ++ x.toList) ++ s'.running) := by
  cases hchange with
  | rest => simpa using h
  | begin hfree =>
    rw [running_of_no_batch hfree] at h
    simpa [handedOutIn, finishedIn, running, Batch.ofChecks] using h
  | handOut hb _ _ _ =>
    rw [running_of_batch hb] at h
    simpa [handedOutIn, finishedIn, running] using h.append_right _
  | finish hb hplace =>
    rw [running_of_batch hb] at h
    -- the execution that ends moves from those that go on to those that ended
    have hmoved := (List.getElem_cons_eraseIdx_perm hplace).symm.append_left (finishedIn seen)
    simpa [handedOutIn, finishedIn, running] using h.trans hmoved
  | expire hb | notice hb _ =>
    rw [running_of_batch hb] at h
    simpa [running] using h
  | complete hb hdone =>
    rw [running_of_batch hb, (Batch.of_isDone hdone).1] at h
    simpa [handedOutIn, finishedIn, running] using h
  | cancel =>
    cases hb : s.batch <;> simpa [handedOutIn, finishedIn, running, hb] using h
  | quit _ _ | breakOff _ => simpa [running] using h

/-- The batch stays in step with the round that is seen. -/
theorem round_rel (hchange : Change s x s') (h : Option.Rel (Tallied s) s.batch (roundIn seen)) :
    Option.Rel (Tallied s') s'.batch (roundIn (seen ++ x.toList)) := by
  cases hchange with
  | rest => simpa using h
  | begin _ =>
    simp only [Option.toList_some, roundIn_snoc, Round.next]
    exact .some ⟨rfl, rfl, rfl, rfl, fun h => absurd h Bool.false_ne_true⟩
  | @handOut b c rest n hb hwaiting hpermits _ =>
    obtain ⟨r, hr, ht⟩ := round_of_batch h hb
    have hpermit := ht.permits
    have henabled := ht.enabled
    simp only [Option.toList_some, roundIn_snoc, hr, Round.next, Option.map_some]
    refine .some ⟨?_, ?_, congrArg (· ++ [c]) ht.handedOut, ht.cancelled, ht.abandoned⟩
    · simp only [List.length_append, List.length_singleton]
      omega
    · simpa [hwaiting] using henabled
  | @finish b place hb hplace =>
    obtain ⟨r, hr, ht⟩ := round_of_batch h hb
    have hpermit := ht.permits
    have hlength := List.length_eraseIdx_add_one hplace
    simp only [Option.toList_some, roundIn_snoc, hr, Round.next]
    refine .some ⟨?_, ht.enabled, ht.handedOut, ht.cancelled, ht.abandoned⟩
    dsimp only
    omega
  | expire hb =>
    obtain ⟨r, hr, ht⟩ := round_of_batch h hb
    simp only [Option.toList_none, List.append_nil, hr]
    exact .some ⟨ht.permits, ht.enabled, ht.handedOut, ht.cancelled, ht.abandoned⟩
  | notice hb hcancelled =>
    obtain ⟨r, hr, ht⟩ := round_of_batch h hb
    simp only [Option.toList_none, List.append_nil, hr]
    exact .some ⟨ht.permits, ht.enabled, ht.handedOut, ht.cancelled,
      fun _ => ht.cancelled.symm.trans hcancelled⟩
  | complete _ _ =>
    simp only [Option.toList_some, roundIn_snoc, Round.next]
    exact .none
  | cancel =>
    simp only [Option.toList_some, roundIn_snoc, Round.next]
    cases hb : s.batch with
    | none =>
      rw [round_of_no_batch h hb]
      exact .none
    | some b =>
      obtain ⟨r, hr, ht⟩ := round_of_batch h hb
      rw [hr]
      exact .some ⟨ht.permits, ht.enabled, ht.handedOut, rfl, fun _ => rfl⟩
  | quit _ hfree | breakOff hfree =>
    simp only [Option.toList_none, List.append_nil, hfree, round_of_no_batch h hfree]
    exact .none

end Change

theorem accounted_start (workers : Nat) : Accounted workers [] (start workers) where
  workers := rfl
  executions := .refl []
  calledOff := by simp [start]
  round := .none

/-- The account is kept by everything that happens. -/
theorem Accounted.change {x : Option Sight} (h : Accounted workers seen s)
    (hchange : Change s x s') : Accounted workers (seen ++ x.toList) s' where
  workers := hchange.workers_eq.trans h.workers
  executions := hchange.executions_perm h.executions
  calledOff := hchange.calledOff_iff h.calledOff
  round := hchange.round_rel h.round

/-- A permit is either free or with an execution. -/
theorem Accounted.permits_add_inFlight (h : Accounted workers seen s) (hb : s.batch = some b) :
    b.permits + s.inFlight = max workers 1 := by
  obtain ⟨r, -, ht⟩ := round_of_batch h.round hb
  rw [← length_running, running_of_batch hb, ← h.workers]
  exact ht.permits

/-- The account holds whatever moves are made. -/
theorem Run.accounted (h : Run (.start workers) seen s) : Accounted workers seen s := by
  induction h with
  | start => exact accounted_start workers
  | step _ hmove ih => exact ih.change (.of_move? hmove)

/-- **Executions are bounded, and a round hands its checks out in order, each once.**

Whatever moves are made, in whatever order: what was handed out and has not ended
is what goes on, which is never more than there are workers, and in a round the
free permits make up for the rest. The checks that a round has handed out are the
first of those it is over. A round is over only when no execution goes on, and
unless the schedule was called off by then, every check was handed out. -/
theorem Run.bounded_dispatch (h : Run (.start workers) seen s) :
    (handedOutIn seen).Perm (finishedIn seen ++ s.running) ∧
      s.inFlight ≤ max workers 1 ∧
      (∀ b, s.batch = some b → b.permits + s.inFlight = max workers 1) ∧
      (∀ r, roundIn seen = some r →
        r.handedOut <+: r.enabled ∧ (r.enabled.Nodup → r.handedOut.Nodup)) ∧
      ∀ s', s.move? .complete = some s' →
        s.running = [] ∧
          ∃ r, roundIn seen = some r ∧ (.calledOff ∉ seen → r.handedOut = r.enabled) := by
  have hacc := h.accounted
  refine ⟨hacc.executions, ?_, fun b hb => hacc.permits_add_inFlight hb, ?_, ?_⟩
  · cases hb : s.batch with
    | none => simp [inFlight, hb]
    | some b =>
      have hsum := hacc.permits_add_inFlight hb
      omega
  · intro r hr
    have hround := hacc.round
    rw [hr] at hround
    cases hb : s.batch with
    | none =>
      rw [hb] at hround
      cases hround
    | some b =>
      rw [hb, Option.rel_some_some] at hround
      have hpre : r.handedOut <+: r.enabled :=
        ⟨b.waiting, by rw [← hround.handedOut, hround.enabled]⟩
      exact ⟨hpre, hpre.sublist.nodup⟩
  · intro s' hmove
    cases Change.of_move? hmove with
    | complete hb hdone =>
      obtain ⟨r, hr, ht⟩ := round_of_batch hacc.round hb
      obtain ⟨hrunning, hwaiting⟩ := Batch.of_isDone hdone
      refine ⟨(running_of_batch hb).trans hrunning, r, hr, fun hcalled => ?_⟩
      rcases hwaiting with habandoned | hwaiting
      · exact absurd (hacc.calledOff.1 (ht.abandoned habandoned)) hcalled
      · rw [← ht.handedOut, ← ht.enabled, hwaiting, List.append_nil]

/-- Two workers in their second round: the last of its checks was handed out when
the first execution of the round had ended. -/
theorem Run.bounded_dispatch_of_two_rounds :
    ∃ (a b c : Check) (seen : List Sight) (s : Schedule),
      seen = [.began [a], .handedOut a, .finished a, .completed,
        .began [a, b, c], .handedOut a, .handedOut b, .finished a, .handedOut c] ∧
      Run (.start 2) seen s ∧ s.running = [b, c] ∧ [a, b, c].Nodup ∧
        (handedOutIn seen).Perm (finishedIn seen ++ s.running) ∧ s.inFlight ≤ 2 ∧
        ∃ r, roundIn seen = some r ∧ r.handedOut <+: r.enabled ∧ r.handedOut.Nodup := by
  let check (name : String) : Check := .create name "device-1" "icmp" name .epoch
  let a := check "a"
  let b := check "b"
  let c := check "c"
  have hrun := (Run.start : Run (.start 2) [] _)
    |>.step (m := .tick [a]) rfl
    |>.step (m := .within .dispatch) rfl
    |>.step (m := .within (.finish 0)) rfl
    |>.step (m := .complete) rfl
    |>.step (m := .tick [a, b, c]) rfl
    |>.step (m := .within .dispatch) rfl
    |>.step (m := .within .dispatch) rfl
    |>.step (m := .within (.finish 0)) rfl
    |>.step (m := .within .dispatch) rfl
  have hbounds := hrun.bounded_dispatch
  have hnodup : [a, b, c].Nodup := by decide
  obtain ⟨hpre, hnodup'⟩ := hbounds.2.2.2.1 ⟨[a, b, c], [a, b, c]⟩ rfl
  exact ⟨a, b, c, _, _, rfl, hrun, rfl, hnodup, hbounds.1, hbounds.2.1,
    _, rfl, hpre, hnodup' hnodup⟩

end Schedule

end NetWatch
