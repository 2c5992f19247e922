/-
NetWatch.Proofs.Script.Looking — scripts that only look things up.

Such a script asks queries that read and looks at the clock; it may stop for
good, but it writes nothing, tells nothing and sends nothing. Put together, two
such scripts are such a script (`OnlyLooks.bind`). Where the store answers
soundly, running one leaves the store as it was and no trace but its result
(`OnlyLooks.run_sound`).

All that is looked up to decide whether a new alert is kept quiet is of this
kind (`onlyLooks_suppression`).
-/
import NetWatch.Alerting
import NetWatch.Proofs.Store.Lookup

namespace NetWatch

namespace Script

variable {α β : Type}

/-! ## Steps of a script that goes on -/

theorem query_bind (q : Query) (f : q.Reply → Script β) : (query q >>= f) = .ask q f := rfl

theorem now_bind (f : Timestamp → Script β) : (now >>= f) = .clock f := rfl

theorem ask_bind (q : Query) (next : q.Reply → Script α) (f : α → Script β) :
    (Script.ask q next >>= f) = .ask q fun r => next r >>= f := rfl

theorem clock_bind (next : Timestamp → Script α) (f : α → Script β) :
    (Script.clock next >>= f) = .clock fun t => next t >>= f := rfl

theorem done_bind (a : α) (f : α → Script β) : (Script.done a >>= f) = f a := rfl

/-- A script that has a result goes on where it ended. -/
theorem run_bind_of_result {w : World} {s : Script α} {f : α → Script β} {st : Store} {a : α}
    (h : (s.run w st).result = some a) :
    (s >>= f).run w st = (s.run w st).andThen ((f a).run w (s.run w st).store) := by
  induction s generalizing st with
  | done b =>
    cases h
    rfl
  | abort => cases h
  | ask q next ih => exact ih _ h
  | clock next ih => exact ih _ h
  | publish e next ih =>
    exact congrArg (fun t : Trace β => { t with events := e :: t.events }) (ih h)
  | send r next ih =>
    exact congrArg (fun t : Trace β => { t with requests := r :: t.requests }) (ih _ h)

/-- A script that stops for good does not go on. -/
theorem run_bind_of_none {w : World} {s : Script α} {f : α → Script β} {st : Store}
    (h : (s.run w st).result = none) : (s >>= f).run w st =
      ⟨none, (s.run w st).store, (s.run w st).events, (s.run w st).requests⟩ := by
  induction s generalizing st with
  | done b => cases h
  | abort => rfl
  | ask q next ih => exact ih _ h
  | clock next ih => exact ih _ h
  | publish e next ih =>
    exact congrArg (fun t : Trace β => { t with events := e :: t.events }) (ih h)
  | send r next ih =>
    exact congrArg (fun t : Trace β => { t with requests := r :: t.requests }) (ih _ h)

/-! ## Looking only -/

/-- A script that only looks things up. -/
def OnlyLooks : Script α → Prop
  | .done _ => True
  | .abort => True
  | .ask q next => q.isLookup = true ∧ ∀ r, OnlyLooks (next r)
  | .clock next => ∀ t, OnlyLooks (next t)
  | .publish _ _ => False
  | .send _ _ => False

namespace OnlyLooks

theorem pure (a : α) : OnlyLooks (Pure.pure a : Script α) := trivial

theorem query {q : Query} (h : q.isLookup = true) : OnlyLooks (Script.query q) :=
  ⟨h, fun _ => trivial⟩

theorem now : OnlyLooks Script.now := fun _ => trivial

theorem ago (d : Duration) : OnlyLooks (Script.ago d) := by
  intro t
  cases h : t.sub? d <;> simp only [h] <;> trivial

/-- A script that only looks goes on to one that only looks. -/
theorem bind {s : Script α} {f : α → Script β} (hs : OnlyLooks s)
    (hf : ∀ a, OnlyLooks (f a)) : OnlyLooks (s >>= f) := by
  induction s with
  | done a => exact hf a
  | abort => trivial
  | ask q next ih => exact ⟨hs.1, fun r => ih r (hs.2 r)⟩
  | clock next ih => exact fun t => ih t (hs t)
  | publish e next ih => exact hs.elim
  | send r next ih => exact hs.elim

/-- **A script that only looks leaves nothing behind**, where the store answers soundly. -/
theorem run_sound {w : World} (hw : w.backend = .sound) {s : Script α} (hs : OnlyLooks s)
    (st : Store) : s.run w st = ⟨(s.run w st).result, st, [], []⟩ := by
  induction s with
  | done a => rfl
  | abort => rfl
  | ask q next ih =>
    simp only [Script.run, hw, Backend.sound, Store.answer_snd_of_isLookup st hs.1]
    exact ih _ (hs.2 _)
  | clock next ih => exact ih _ (hs _)
  | publish e next ih => exact hs.elim
  | send r next ih => exact hs.elim

end OnlyLooks

end Script

open Script

/-! ## What keeps an alert quiet -/

theorem onlyLooks_ofDevice (now : Timestamp) (deviceId : String) :
    OnlyLooks (Maintenance.ofDevice now deviceId) :=
  .bind (.query rfl) fun _ => .pure _

theorem onlyLooks_parentAlerts (deviceId : String) (window : Duration) :
    OnlyLooks (Correlation.parentAlerts deviceId window) := by
  refine .bind (.query rfl) fun r => ?_
  split
  · exact .pure _
  · exact .pure _
  · split
    · exact .pure _
    · refine .bind (.ago window) fun since => .bind (.query rfl) fun r => ?_
      split <;> exact .pure _

theorem onlyLooks_finding (deviceId : String) (window : Duration) :
    OnlyLooks (Correlation.ofDevice deviceId window) := by
  refine .bind (onlyLooks_parentAlerts deviceId window) fun r => ?_
  split <;> exact .pure _

namespace Alerting

theorem onlyLooks_underMaintenance (rules : AlertRules) (check : Check) :
    OnlyLooks (underMaintenance rules check) := by
  unfold underMaintenance
  split
  · refine .bind .now fun now => .bind (onlyLooks_ofDevice now check.deviceId) fun r => ?_
    split <;> exact .pure _
  · exact .pure _

theorem onlyLooks_blockedBy (check : Check) : OnlyLooks (blockedBy check) := by
  refine .bind (.query rfl) fun r => ?_
  split <;> exact .pure _

theorem onlyLooks_explainedBy (rules : AlertRules) (check : Check) :
    OnlyLooks (explainedBy rules check) := by
  unfold explainedBy
  split
  · exact .pure _
  · refine .bind (onlyLooks_finding check.deviceId _) fun r => ?_
    split <;> exact .pure _

/-- Whatever decides that an alert is kept quiet is only looked up. -/
theorem onlyLooks_suppression (rules : AlertRules) (check : Check) :
    OnlyLooks (suppression rules check) := by
  refine .bind (onlyLooks_underMaintenance rules check) fun covered => ?_
  split
  · exact .pure _
  · refine .bind (onlyLooks_blockedBy check) fun blocking => ?_
    split
    · exact .pure _
    · refine .bind (onlyLooks_explainedBy rules check) fun parent => ?_
      split <;> exact .pure _

end Alerting

end NetWatch
