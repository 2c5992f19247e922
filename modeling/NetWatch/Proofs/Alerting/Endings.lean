/-
NetWatch.Proofs.Alerting.Endings — the moments at which alerts are over (`handle_success`).

A call resolves an alert at a moment that it has read from the clock itself
(`Task.datesBy_script`), and tells of the end with that same moment. What holds
of one call is carried along a run: by the script that is left, for the moments
(`Dated`), and by the stage, for what was resolved (`Stage.Resolving`).

`Run.endings` puts the two together. Whatever is told to be over was resolved
by a success, at a moment that this success had read from the clock, and the
event says so.
-/
import NetWatch.Proofs.Alerting.Story

namespace NetWatch

open Script Alerting

/-! ## Scripts and the clock -/

namespace Script

variable {α β : Type} {seen seen' : Timestamp → Prop}

/-- A script that resolves alerts only at moments that it has read from the clock, given those that
were read before. -/
def DatesBy (seen : Timestamp → Prop) : Script α → Prop
  | .done _ => True
  | .abort => True
  | .ask q next => (∀ id time, q = .resolveAlert id time → seen time) ∧ ∀ r, DatesBy seen (next r)
  | .clock next => ∀ t, DatesBy (fun time => time = t ∨ seen time) (next t)
  | .publish _ next => DatesBy seen next
  | .send _ next => ∀ r, DatesBy seen (next r)

namespace DatesBy

theorem mono {s : Script α} (h : s.DatesBy seen) (hseen : ∀ time, seen time → seen' time) :
    s.DatesBy seen' := by
  induction s generalizing seen seen' with
  | done a => trivial
  | abort => trivial
  | ask q next ih =>
    exact ⟨fun id time hq => hseen time (h.1 id time hq), fun r => ih r (h.2 r) hseen⟩
  | clock next ih => exact fun t => ih t (h t) fun time => Or.imp_right (hseen time)
  | publish e next ih => exact ih h hseen
  | send r next ih => exact fun r' => ih r' (h r') hseen

theorem bind {s : Script α} {f : α → Script β} (h : s.DatesBy seen)
    (hf : ∀ a, (f a).DatesBy seen) : (s >>= f).DatesBy seen := by
  induction s generalizing seen with
  | done a => exact hf a
  | abort => trivial
  | ask q next ih => exact ⟨h.1, fun r => ih r (h.2 r) hf⟩
  | clock next ih => exact fun t => ih t (h t) fun a => (hf a).mono fun _ => .inr
  | publish e next ih => exact ih h hf
  | send r next ih => exact fun r' => ih r' (h r') hf

/-- Looking things up resolves nothing. -/
theorem of_onlyLooks {s : Script α} (h : s.OnlyLooks) : s.DatesBy seen := by
  induction s generalizing seen with
  | done a => trivial
  | abort => trivial
  | ask q next ih =>
    refine ⟨?_, fun r => ih r (h.2 r)⟩
    rintro id time rfl
    cases h.1
  | clock next ih => exact fun t => ih t (h t)
  | publish e next ih => exact h.elim
  | send r next ih => exact h.elim

/-- Any other query resolves nothing. -/
theorem query {q : Query} (h : ∀ id time, q ≠ .resolveAlert id time) :
    (Script.query q).DatesBy seen :=
  ⟨fun id time hq => absurd hq (h id time), fun _ => trivial⟩

end DatesBy

end Script

namespace Task

theorem datesBy_raise (t : Task) {seen : Timestamp → Prop} :
    (raise t.rules t.check t.result t.streak t.id).DatesBy seen := by
  unfold raise
  rw [now_bind]
  intro now
  refine .bind (.of_onlyLooks (onlyLooks_suppression t.rules t.check)) fun why => ?_
  refine .bind (.query (by rintro _ _ ⟨⟩)) fun reply => ?_
  split
  · trivial
  · exact fun _ => trivial

theorem datesBy_onSuccess (check : Check) {seen : Timestamp → Prop} :
    (onSuccess check).DatesBy seen := by
  unfold onSuccess
  refine .bind (.query (by rintro _ _ ⟨⟩)) fun reply => ?_
  split
  · trivial
  · trivial
  · rw [now_bind]
    intro now
    show (Script.query (.resolveAlert _ now) >>= _).DatesBy _
    rw [query_bind]
    refine ⟨?_, fun reply => ?_⟩
    · rintro id time ⟨⟩
      exact .inl rfl
    · cases reply with
      | error _ => trivial
      | ok _ => exact fun _ => trivial

/-- **A call resolves alerts at moments that it has read from the clock.** -/
theorem datesBy_script (t : Task) : t.script.DatesBy fun _ => False := by
  unfold script react
  split
  · exact .bind (datesBy_onSuccess t.check) fun _ => trivial
  · unfold onFailure
    split
    · trivial
    · refine .bind (.query (by rintro _ _ ⟨⟩)) fun reply => ?_
      split
      · trivial
      · trivial
      · exact t.datesBy_raise

end Task

/-! ## Along a run -/

/-- The call in progress, and what was resolved so far, keep to the clock. -/
structure Dated (acts : List Act) (s : Site) : Prop where
  holder : ∀ t rest, s.holder = some (t, rest) → rest.DatesBy fun time => .looked t time ∈ acts
  asked : ∀ t id time r, .asked t (.resolveAlert id time) r ∈ acts → .looked t time ∈ acts

/-- A success resolved the alert of a name at a moment that it had read from the clock. -/
structure ResolvedBy (acts : List Act) (t : Task) (id : String) (time : Timestamp) : Prop where
  passed : t.result.success = true
  looked : .looked t time ∈ acts
  asked : .asked t (.resolveAlert id time) (.ok ()) ∈ acts

/-- What a call has done about the alert that it is busy with. -/
def Stage.Resolving (t : Task) (acts : List Act) : Stage → Prop
  | .begun | .vacant | .over | .raised _ => True
  | .found _ => t.result.success = true
  | .closed a time => t.result.success = true ∧ .asked t (.resolveAlert a.id time) (.ok ()) ∈ acts

variable {acts : List Act} {act : Act} {s s' : Site} {stage : Stage} {t : Task}

namespace Dated

/-- An act that resolves nothing leaves the call in progress with what it has read. -/
theorem stay (h : Dated acts s)
    (hact : ∀ t id time r, act = .asked t (.resolveAlert id time) r → .looked t time ∈ acts)
    (hholder : ∀ t rest, s'.holder = some (t, rest) →
      rest.DatesBy fun time => .looked t time ∈ acts ++ [act]) : Dated (acts ++ [act]) s' where
  holder := hholder
  asked t id time r hmem := by
    rcases List.mem_append.1 hmem with hmem | hmem
    · exact List.mem_append_left _ (h.asked t id time r hmem)
    · exact List.mem_append_left _ (hact t id time r (List.mem_singleton.1 hmem).symm)

theorem step (h : Dated acts s) (hstep : Step s act s') : Dated (acts ++ [act]) s' := by
  have hkeep {t : Task} {rest : Script (Option Alert)}
      (hrest : rest.DatesBy fun time => .looked t time ∈ acts) :
      rest.DatesBy fun time => .looked t time ∈ acts ++ [act] :=
    hrest.mono fun _ => List.mem_append_left _
  cases hstep with
  | call _ _ | other _ | restart _ _ _ =>
    exact h.stay (by rintro _ _ _ _ ⟨⟩) fun t rest hs => hkeep (h.holder t rest hs)
  | @enter before after check result id hfree hwaits hnew hplain =>
    refine h.stay (by rintro _ _ _ _ ⟨⟩) ?_
    rintro t rest ⟨⟩
    exact (Task.datesBy_script _).mono fun _ => False.elim
  | @answer t q next hs | @fail t q next hs e =>
    obtain ⟨hdate, hnext⟩ := h.holder t _ hs
    refine h.stay ?_ ?_
    · rintro _ id time _ ⟨⟩
      exact hdate id time rfl
    · rintro _ rest ⟨⟩
      exact hkeep (hnext _)
  | @look t next hs now =>
    refine h.stay (by rintro _ _ _ _ ⟨⟩) ?_
    rintro _ rest ⟨⟩
    refine (h.holder t _ hs now).mono ?_
    rintro time (rfl | hmem)
    · exact List.mem_append_right _ (List.mem_singleton.2 rfl)
    · exact List.mem_append_left _ hmem
  | @tell t e next hs =>
    refine h.stay (by rintro _ _ _ _ ⟨⟩) ?_
    rintro _ rest ⟨⟩
    have hnext : next.DatesBy fun time => .looked t time ∈ acts := h.holder t (.publish e next) hs
    exact hkeep hnext
  | leave _ | stop _ => exact h.stay (by rintro _ _ _ _ ⟨⟩) (by rintro _ _ ⟨⟩)

end Dated

namespace Stage.Resolving

theorem mono (h : stage.Resolving t acts) (act : Act) : stage.Resolving t (acts ++ [act]) := by
  cases stage with
  | closed a time => exact ⟨h.1, List.mem_append_left _ h.2⟩
  | _ => exact h

end Stage.Resolving

/-- A query of a call accounts for what the call has done after it. -/
theorem Follows.exists_resolving {q : Query} {next : q.Reply → Script (Option Alert)}
    (h : Follows t stage (.ask q next)) (hstage : stage.Resolving t acts) (r : q.Reply) :
    ∃ stage', Follows t stage' (next r) ∧ stage'.Resolving t (acts ++ [.asked t q r]) := by
  cases h with
  | lookup hnext =>
    refine ⟨_, hnext r, ?_⟩
    rcases t.afterLookup_cases r with ⟨a, hfound⟩ | hnone
    · rw [hfound]
      exact (Task.of_afterLookup_eq_found hfound).2
    · cases hafter : t.afterLookup r with
      | raised a | found a | closed a time =>
        rw [hafter] at hnone
        cases hnone
      | _ => trivial
  | look hq hnext => exact ⟨_, hnext r, trivial⟩
  | enter hfail hok =>
    cases r with
    | error error => exact ⟨_, hfail error, trivial⟩
    | ok _ => exact ⟨_, hok, trivial⟩
  | resolve hfail hok =>
    cases r with
    | error error => exact ⟨_, hfail error, trivial⟩
    | ok _ => exact ⟨_, hok, hstage, List.mem_append_right _ (List.mem_singleton.2 rfl)⟩

/-- What a call has done is accounted for, all along. -/
theorem Stage.Resolving.carried : Carried fun acts t stage => stage.Resolving t acts where
  mono act h := h.mono act
  begun := trivial
  settled := trivial
  ask r hfollows h := hfollows.exists_resolving h r

namespace Run

variable {rules : AlertRules} {streaks : Streaks} {store : Store}

theorem dated (hrun : Run (.opened rules streaks store) acts s) : Dated acts s := by
  induction hrun with
  | start => exact ⟨by rintro _ _ ⟨⟩, fun _ _ _ _ hmem => by cases hmem⟩
  | step _ hstep ih => exact ih.step hstep

/-- **What is told to be over was resolved by a success**, at a moment that it had read from the
clock and that the event carries. -/
theorem endings (hrun : Run (.opened rules streaks store) acts s) {e : Event}
    (he : e ∈ toldIn acts) (hends : e.topic = Topic.alertResolved) :
    ∃ a t time, e.payload = .alert a ∧ a.resolvedAt = some time ∧ ResolvedBy acts t a.id time := by
  obtain ⟨t, stage, next, hfollows, hstage⟩ := Stage.Resolving.carried.told rfl hrun he
  cases hfollows with
  | tellOpening _ => exact absurd hends (Alert.openingTopic_ne _)
  | @tellEnding a time now _ _ =>
    obtain ⟨hpassed, hasked⟩ := hstage
    exact ⟨_, t, time, rfl, rfl, hpassed, hrun.dated.asked t a.id time _ hasked, hasked⟩

end Run

end NetWatch
