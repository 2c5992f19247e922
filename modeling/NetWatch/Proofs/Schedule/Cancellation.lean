/-
NetWatch.Proofs.Schedule.Cancellation — what a round still hands out once the schedule is called
off (`Tick::run`).

When the next check is due, a free permit and the sign that the schedule is
called off stand side by side, and nothing says which of the two is taken. So
checks are handed out after the schedule was called off
(`Schedule.handedOut_after_calledOff`): up to one for each free permit at once, and
further ones as executions end, until the sign is taken. From then on the round
hands out nothing more.

`Schedule.Run.handedOut_of_calledOff` says so of every state that a schedule can
be in; it names all the checks that can still be handed out, and no others.
-/
import NetWatch.Proofs.Schedule.Dispatch

namespace NetWatch.Schedule

variable {workers : Nat} {seen later : List Sight} {s s' : Schedule} {b b' b'' : Batch}

/-! ## A batch further on in its round -/

/-- A batch, and what became of it while this was seen. -/
structure FurtherOn (later : List Sight) (b b' : Batch) : Prop where
  waiting : b.waiting = handedOutIn later ++ b'.waiting
  permits : b'.permits + (handedOutIn later).length = b.permits + (finishedIn later).length
  /-- A batch whose rest is left stays so. -/
  abandoned : b.abandoned = true → b'.abandoned = true ∧ handedOutIn later = []

theorem FurtherOn.refl (b : Batch) : FurtherOn [] b b :=
  ⟨rfl, rfl, fun h => ⟨h, rfl⟩⟩

theorem FurtherOn.trans {later' : List Sight} (h : FurtherOn later b b')
    (h' : FurtherOn later' b' b'') : FurtherOn (later ++ later') b b'' where
  waiting := by rw [h.waiting, h'.waiting, handedOutIn_append, List.append_assoc]
  permits := by
    have hfirst := h.permits
    have hsecond := h'.permits
    simp only [handedOutIn_append, finishedIn_append, List.length_append]
    omega
  abandoned hleft := by
    obtain ⟨hleft', hnone⟩ := h.abandoned hleft
    obtain ⟨hleft'', hnone'⟩ := h'.abandoned hleft'
    exact ⟨hleft'', by rw [handedOutIn_append, hnone, hnone', List.append_nil]⟩

/-- A batch goes on through everything but the end of its round. -/
theorem Change.furtherOn {x : Option Sight} (hchange : Change s x s') (hx : x ≠ some .completed)
    (hb : s.batch = some b) : ∃ b', s'.batch = some b' ∧ FurtherOn x.toList b b' := by
  cases hchange with
  | rest => exact ⟨b, hb, .refl b⟩
  | begin hfree | quit _ hfree | breakOff hfree => rw [hfree] at hb; cases hb
  | handOut hb' hwaiting hpermits hopen =>
    obtain rfl := Option.some.inj (hb.symm.trans hb')
    refine ⟨_, rfl, hwaiting, by simp [handedOutIn, finishedIn, hpermits], fun hleft => ?_⟩
    rw [hopen] at hleft
    cases hleft
  | finish hb' _ | expire hb' | notice hb' _ =>
    obtain rfl := Option.some.inj (hb.symm.trans hb')
    exact ⟨_, rfl, rfl, rfl, fun hleft => ⟨by simp [hleft], rfl⟩⟩
  | complete _ _ => exact absurd rfl hx
  | cancel =>
    exact ⟨{ b with cancelled := true }, by simp [hb], rfl, rfl, fun hleft => ⟨hleft, rfl⟩⟩

theorem Run.furtherOn (h : Run s later s') (hround : .completed ∉ later) (hb : s.batch = some b) :
    ∃ b', s'.batch = some b' ∧ FurtherOn later b b' := by
  induction h with
  | start => exact ⟨b, hb, .refl b⟩
  | @step later s' s'' m _ hmove ih =>
    rw [List.mem_append, not_or] at hround
    obtain ⟨b', hb', hfirst⟩ := ih hround.1
    have hx : s'.sight? m ≠ some .completed := fun hx => hround.2 (by simp [hx])
    obtain ⟨b'', hb'', hlast⟩ := (Change.of_move? hmove).furtherOn hx hb'
    exact ⟨b'', hb'', hfirst.trans hlast⟩

/-- While permits are free, checks that wait can be handed out one after the other. -/
theorem exists_run_handedOut {cs : List Check} (hb : s.batch = some b) (hpre : cs <+: b.waiting)
    (hlen : cs.length ≤ b.permits) (hopen : b.abandoned = true → cs = []) :
    ∃ s', Run s (cs.map .handedOut) s' := by
  induction cs generalizing s b with
  | nil => exact ⟨s, .start⟩
  | cons c cs ih =>
    obtain ⟨rest, hwaiting⟩ := hpre
    obtain ⟨n, hpermits⟩ : ∃ n, b.permits = n + 1 :=
      Nat.exists_eq_succ_of_ne_zero (by simp only [List.length_cons] at hlen; omega)
    have hleft : b.abandoned = false := by
      cases h : b.abandoned with
      | false => rfl
      | true => cases hopen h
    let next : Batch :=
      { b with
        waiting := cs ++ rest
        dispatched := b.dispatched ++ [c]
        running := b.running ++ [c]
        permits := n }
    have hmove : s.move? (.within .dispatch) = some { s with batch := some next } := by
      simp [next, move?, Batch.move?, hb, ← hwaiting, hpermits, hleft]
    have hsight : s.sight? (.within .dispatch) = some (.handedOut c) := by
      simp [sight?, hb, ← hwaiting]
    have hlen' : cs.length ≤ n := by
      simp only [List.length_cons] at hlen
      omega
    obtain ⟨s', hrun⟩ := ih (s := { s with batch := some next }) (b := next) rfl
      (List.prefix_append cs rest) hlen' fun h => absurd (hleft.symm.trans h) Bool.false_ne_true
    have hfirst := Run.start.step hmove
    rw [hsight] at hfirst
    exact ⟨s', hfirst.trans hrun⟩

/-! ## After the schedule is called off -/

@[simp] theorem handedOutIn_map (cs : List Check) : handedOutIn (cs.map .handedOut) = cs := by
  simp [handedOutIn, List.filterMap_map]

@[simp] theorem finishedIn_map (cs : List Check) : finishedIn (cs.map .handedOut) = [] := by
  simp [finishedIn, List.filterMap_map]

/-- **What is handed out of a batch that was called off.**

In every state after that, the rest of the checks may be left at once. Just as
well the next of them are handed out, as many as there are permits, before any
execution ends; and for each that ends one more, until the rest is left. -/
theorem Run.handedOut_of_calledOff (h : Run (.start workers) seen s)
    (hcalled : .calledOff ∈ seen) (hb : s.batch = some b) :
    (b.isOpen = true → ∃ s' b', Run s [] s' ∧ s'.batch = some b' ∧ b'.abandoned = true) ∧
      (∀ cs, (∃ later s', Run s later s' ∧ .completed ∉ later ∧ finishedIn later = [] ∧
          handedOutIn later = cs) ↔
        cs <+: b.waiting ∧ cs.length + s.inFlight ≤ max workers 1 ∧
          (b.abandoned = true → cs = [])) ∧
      ∀ later s', Run s later s' → .completed ∉ later →
        handedOutIn later <+: b.waiting ∧
          (handedOutIn later).length + s.inFlight ≤ max workers 1 + (finishedIn later).length ∧
          (b.abandoned = true → handedOutIn later = []) := by
  have hacc := h.accounted
  obtain ⟨r, -, ht⟩ := round_of_batch hacc.round hb
  have hpermits := hacc.permits_add_inFlight hb
  have hbound : ∀ later s', Run s later s' → .completed ∉ later →
      handedOutIn later <+: b.waiting ∧
        (handedOutIn later).length + s.inFlight ≤ max workers 1 + (finishedIn later).length ∧
        (b.abandoned = true → handedOutIn later = []) := by
    intro later s' hlater hround
    obtain ⟨b', -, hfurther⟩ := hlater.furtherOn hround hb
    have hmore := hfurther.permits
    exact ⟨⟨b'.waiting, hfurther.waiting.symm⟩, by omega, fun hleft => (hfurther.abandoned hleft).2⟩
  refine ⟨fun hopen => ?_, fun cs => ⟨?_, ?_⟩, hbound⟩
  · have hcancelled : b.cancelled = true := ht.cancelled.trans (hacc.calledOff.2 hcalled)
    have hmove : s.move? (.within .abandon) =
        some { s with batch := some { b with abandoned := true } } := by
      simp [move?, Batch.move?, hb, hcancelled, hopen]
    exact ⟨_, _, Run.start.step hmove, rfl, rfl⟩
  · rintro ⟨later, s', hlater, hround, hnone, rfl⟩
    obtain ⟨hpre, hlen, hleft⟩ := hbound later s' hlater hround
    rw [hnone] at hlen
    exact ⟨hpre, hlen, hleft⟩
  · rintro ⟨hpre, hlen, hleft⟩
    obtain ⟨s', hrun⟩ := exists_run_handedOut hb hpre (by omega) hleft
    exact ⟨_, s', hrun, by simp, finishedIn_map cs, handedOutIn_map cs⟩

/-- A round of four checks for three workers, called off while its first check is
executed: the second and the third can be handed out nevertheless, the fourth
cannot. -/
theorem Run.handedOut_of_calledOff_of_three_workers :
    ∃ (a b c d : Check) (s : Schedule) (batch : Batch),
      Run (.start 3) [.began [a, b, c, d], .handedOut a, .calledOff] s ∧
        s.batch = some batch ∧
        (∃ later s', Run s later s' ∧ .completed ∉ later ∧ finishedIn later = [] ∧
          handedOutIn later = [b, c]) ∧
        ¬ ∃ later s', Run s later s' ∧ .completed ∉ later ∧ finishedIn later = [] ∧
          handedOutIn later = [b, c, d] := by
  let check (name : String) : Check := .create name "device-1" "icmp" name .epoch
  let a := check "a"
  let b := check "b"
  let c := check "c"
  let d := check "d"
  have hrun := (Run.start : Run (.start 3) [] _)
    |>.step (m := .tick [a, b, c, d]) rfl
    |>.step (m := .within .dispatch) rfl
    |>.step (m := .cancel) rfl
  have hexact := (hrun.handedOut_of_calledOff (by simp [sight?]) rfl).2.1
  refine ⟨a, b, c, d, _, _, hrun, rfl, (hexact [b, c]).2 ⟨⟨[d], rfl⟩, by decide, ?_⟩, ?_⟩
  · exact fun h => absurd h Bool.false_ne_true
  · intro hmore
    exact absurd ((hexact [b, c, d]).1 hmore).2.1 (by decide)

/-- **A check that is handed out after the schedule was called off**, with a worker free. -/
theorem handedOut_after_calledOff :
    ∃ (a b : Check) (s : Schedule),
      Run (.start 2) [.began [a, b], .handedOut a, .calledOff, .handedOut b] s := by
  let check (name : String) : Check := .create name "device-1" "icmp" name .epoch
  have hrun := (Run.start : Run (.start 2) [] _)
    |>.step (m := .tick [check "a", check "b"]) rfl
    |>.step (m := .within .dispatch) rfl
    |>.step (m := .cancel) rfl
    |>.step (m := .within .dispatch) rfl
  exact ⟨check "a", check "b", _, hrun⟩

end NetWatch.Schedule
