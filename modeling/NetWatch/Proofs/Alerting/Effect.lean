/-
NetWatch.Proofs.Alerting.Effect — what a result leads to, as data (`handle_success`,
`handle_failure`).

What is done about a result is one of few things: nothing, a new alert, or the
end of an open one; or the call stops for good. Which of them it is
(`Alerting.effect`) depends on what is looked up, and everything that the call
does follows from it (`Alerting.run_react_given`, `Alerting.run_react`). So two
calls can be compared by their effects, without running them.

The look-ups see little of the store: the open alerts of the check, and those of
the devices that it watches (`Alerting.Watches`). Stores that are alike in that
respect have the same effect (`Alerting.SeesAlike.effect_eq`).
-/
import NetWatch.Proofs.Alerting.Suppression

namespace NetWatch

open AlertRow (isOpenFor)

/-- A script that only looks and stops for good leaves everything as it was. -/
theorem Script.OnlyLooks.run_bind_of_none {α β : Type} {w : World} (hw : w.backend = .sound)
    {s : Script α} (hs : OnlyLooks s) {f : α → Script β} {st : Store}
    (hnone : (s.run w st).result = none) : (s >>= f).run w st = ⟨none, st, [], []⟩ := by
  rw [Script.run_bind_of_none hnone, hs.run_sound hw]

/-- Whether a check has an open alert. -/
def Store.HasOpenAlert (s : Store) (checkId : String) : Prop :=
  ∃ row ∈ s.alerts, row.checkId = checkId ∧ row.resolvedAt = none

theorem Store.filter_isOpenFor_eq_nil_iff {s : Store} {checkId : String} :
    s.alerts.filter (AlertRow.isOpenFor checkId) = [] ↔ ¬s.HasOpenAlert checkId := by
  simp [Store.HasOpenAlert, AlertRow.isOpenFor, AlertRow.isActive, List.filter_eq_nil_iff]

namespace Alerting

/-! ## Effects -/

/-- What a result leads to. -/
inductive Effect where
  | nothing
  /-- The call stops for good before it has done anything. -/
  | stopped
  | raised (why : Option Suppression)
  | resolved (a : Alert)

/-- What a result leads to, once the streak has counted it. -/
def effect (rules : AlertRules) (w : World) (s : Store) (check : Check) (success : Bool)
    (streak : UInt32) : Effect :=
  match success, (s.answer (.activeAlert check.id)).1 with
  | true, .ok (some a) => .resolved a
  | true, .ok none => .nothing
  | true, .error _ => .nothing
  | false, .ok none =>
    if streak < rules.threshold then .nothing
    else
      match ((suppression rules check).run w s).result with
      | some why => .raised why
      | none => .stopped
  | false, .ok (some _) => .nothing
  | false, .error _ => .nothing

namespace Effect

variable (now : Timestamp) (new : Option Suppression → Alert)

/-- The rows of alerts after it; `new` is the alert that it may raise. -/
def rowsAfter (rows : List AlertRow) : Effect → List AlertRow
  | .nothing => rows
  | .stopped => rows
  | .raised why => rows ++ [(new why).toRow]
  | .resolved a => Query.alertsAfter (.resolveAlert a.id now) rows

/-- What is told of it. -/
def events : Effect → List Event
  | .nothing => []
  | .stopped => []
  | .raised why => [(new why).opening now]
  | .resolved a => [a.ending now now]

/-- What the call gives back. -/
def result : Effect → Option (Option Alert)
  | .nothing => some none
  | .stopped => none
  | .raised why => some (some (new why))
  | .resolved _ => some none

/-- What becomes of it in a store: no alert is raised under a name that is taken. -/
def given (taken : Bool) : Effect → Effect
  | .raised why => if taken then .nothing else .raised why
  | .nothing => .nothing
  | .stopped => .stopped
  | .resolved a => .resolved a

@[simp]
theorem given_false (e : Effect) : e.given false = e := by
  cases e <;> rfl

/-- Only a call that stops for good gives nothing back. -/
theorem result_given_eq_none_iff {e : Effect} {taken : Bool} :
    (e.given taken).result new = none ↔ e = .stopped := by
  cases e with
  | raised why => cases taken <;> simp [given, result]
  | _ => simp [given, result]

end Effect

variable {w : World} {s : Store} {rules : AlertRules} {check : Check} {result : CheckResult}
  {streak : UInt32} {id : String}

/-- A failure that is due and finds no moment to look back to stops before it raises anything. -/
theorem run_onFailure_of_stopped (hw : w.backend = .sound) (hdue : rules.threshold ≤ streak)
    (hnone : (s.answer (.activeAlert check.id)).1 = .ok none)
    (hstop : ((suppression rules check).run w s).result = none) :
    (onFailure rules check result streak id).run w s = ⟨none, s, [], []⟩ := by
  rw [run_onFailure_of_due hw hdue hnone]
  exact (onlyLooks_suppression rules check).run_bind_of_none hw hstop

/-- A success has no effect unless its check is found to have an open alert. -/
theorem effect_of_ne (hne : ∀ a, (s.answer (.activeAlert check.id)).1 ≠ .ok (some a)) :
    effect rules w s check true streak = .nothing := by
  unfold effect
  rcases hfound : (s.answer (.activeAlert check.id)).1 with e | _ | a
  · rfl
  · rfl
  · exact absurd hfound (hne a)

theorem run_react_of_ne (hw : w.backend = .sound) {streaks : Streaks}
    (h : result.success = true)
    (hne : ∀ a, (s.answer (.activeAlert check.id)).1 ≠ .ok (some a)) :
    (react rules streaks check result id).run w s = ⟨some none, s, [], []⟩ := by
  rcases hfound : (s.answer (.activeAlert check.id)).1 with e | _ | a
  · unfold react onSuccess
    rw [if_pos h, Script.query_bind, Script.ask_bind]
    simp only [Script.run, hw, Backend.sound, hfound]
    rw [Store.answer_snd_of_isLookup s rfl]
    rfl
  · exact run_react_of_none hw h hfound
  · exact absurd hfound (hne a)

/-- **All that is done about a result follows from its effect**, and from whether the name that a
new alert would have is taken. -/
theorem run_react_given (hw : w.backend = .sound) (streaks : Streaks) :
    let new := newAlert rules check result (streaks.count check.id) id w.now
    let e := (effect rules w s check result.success (streaks.count check.id)).given
      (s.alerts.any (·.id == id))
    (react rules streaks check result id).run w s =
      ⟨e.result new, { s with alerts := e.rowsAfter w.now new s.alerts },
        e.events w.now new, []⟩ := by
  intro new e
  cases hsuccess : result.success with
  | true =>
    by_cases hopen : ∃ a, (s.answer (.activeAlert check.id)).1 = .ok (some a)
    · obtain ⟨a, hfound⟩ := hopen
      have he : e = .resolved a := by simp [e, effect, hsuccess, hfound, Effect.given]
      rw [he, run_react_of_open hw hsuccess hfound]
      rfl
    · have hne := not_exists.1 hopen
      have he : e = .nothing := by simp [e, effect_of_ne hne, hsuccess, Effect.given]
      rw [he, run_react_of_ne hw hsuccess hne]
      rfl
  | false =>
    rw [react_of_failed hsuccess]
    by_cases hnone : (s.answer (.activeAlert check.id)).1 = .ok none
    · by_cases hlt : streaks.count check.id < rules.threshold
      · have he : e = .nothing := by simp [e, effect, hsuccess, hnone, hlt, Effect.given]
        rw [he, run_onFailure_of_lt hlt]
        rfl
      · have hdue := UInt32.not_lt.1 hlt
        cases hwhy : ((suppression rules check).run w s).result with
        | none =>
          have he : e = .stopped := by simp [e, effect, hsuccess, hnone, hlt, hwhy, Effect.given]
          rw [he, run_onFailure_of_stopped hw hdue hnone hwhy]
          rfl
        | some why =>
          cases htaken : s.alerts.any (·.id == id) with
          | true =>
            have hrow : ∃ r ∈ s.alerts, r.id = id := by simpa using htaken
            have he : e = .nothing := by
              simp [e, effect, hsuccess, hnone, hlt, hwhy, htaken, Effect.given]
            rw [he, run_onFailure_of_taken hw hdue hnone hwhy hrow]
            rfl
          | false =>
            have hfree : ∀ r ∈ s.alerts, r.id ≠ id := by simpa using htaken
            have he : e = .raised why := by
              simp [e, effect, hsuccess, hnone, hlt, hwhy, htaken]
            rw [he, run_onFailure_of_vacant hw hdue hnone hwhy hfree]
            rfl
    · have he : e = .nothing := by
        rcases hfound : (s.answer (.activeAlert check.id)).1 with error | _ | a
        · simp [e, effect, hsuccess, hfound, Effect.given]
        · exact absurd hfound hnone
        · simp [e, effect, hsuccess, hfound, Effect.given]
      rw [he, run_onFailure_of_ne hw hnone]
      rfl

/-- With a name that is free, everything follows from the effect alone. -/
theorem run_react (hw : w.backend = .sound) (hfree : ∀ r ∈ s.alerts, r.id ≠ id)
    (streaks : Streaks) :
    let new := newAlert rules check result (streaks.count check.id) id w.now
    let e := effect rules w s check result.success (streaks.count check.id)
    (react rules streaks check result id).run w s =
      ⟨e.result new, { s with alerts := e.rowsAfter w.now new s.alerts },
        e.events w.now new, []⟩ := by
  have htaken : s.alerts.any (·.id == id) = false := by simpa using hfree
  have hrun : (react rules streaks check result id).run w s = _ := run_react_given hw streaks
  rw [htaken, Effect.given_false] at hrun
  exact hrun

/-- A failure that comes early, or of a check that has an open alert, leads to nothing. -/
theorem effect_of_quiet (h : streak < rules.threshold ∨ s.HasOpenAlert check.id) :
    effect rules w s check false streak = .nothing := by
  unfold effect
  rcases hfound : (s.answer (.activeAlert check.id)).1 with error | _ | a
  · rfl
  · have hvacant := Store.filter_isOpenFor_eq_nil_iff.1 (Store.filter_isOpenFor_eq_nil hfound)
    exact if_pos (h.resolve_right hvacant)
  · rfl

/-- A failure that is due, of a check that has no open alert, raises one unless the look-ups stop
the call. -/
theorem effect_of_due (hdue : rules.threshold ≤ streak) (hvacant : ¬s.HasOpenAlert check.id) :
    effect rules w s check false streak =
      match ((suppression rules check).run w s).result with
      | some why => .raised why
      | none => .stopped := by
  have hnone := Store.answer_activeAlert_eq_none (Store.filter_isOpenFor_eq_nil_iff.2 hvacant)
  unfold effect
  rw [hnone]
  exact if_neg (UInt32.not_lt.2 hdue)

/-- **A call stops for good** only after a failure that is due, of a check that has no open alert,
and only for want of a moment to look back to. -/
theorem effect_eq_stopped_iff (hw : w.backend = .sound) {success : Bool} :
    effect rules w s check success streak = .stopped ↔ success = false ∧
      rules.threshold ≤ streak ∧ ¬s.HasOpenAlert check.id ∧ Stops rules s w.now check := by
  constructor
  · intro h
    cases success with
    | true =>
      unfold effect at h
      rcases hfound : (s.answer (.activeAlert check.id)).1 with error | _ | a <;>
        rw [hfound] at h <;> cases h
    | false =>
      by_cases hquiet : streak < rules.threshold ∨ s.HasOpenAlert check.id
      · rw [effect_of_quiet hquiet] at h
        cases h
      · rw [not_or, UInt32.not_lt] at hquiet
        rw [effect_of_due hquiet.1 hquiet.2] at h
        cases hwhy : ((suppression rules check).run w s).result with
        | some why =>
          rw [hwhy] at h
          cases h
        | none => exact ⟨rfl, hquiet.1, hquiet.2, (result_suppression_eq_none_iff hw).1 hwhy⟩
  · rintro ⟨rfl, hdue, hvacant, hstops⟩
    rw [effect_of_due hdue hvacant, result_suppression_of_stops hw hstops]

/-! ## What is looked at -/

/-- Whether a check looks at the alerts of a device: its own device hangs off that
one, or it depends on it. -/
def Watches (s : Store) (check : Check) (deviceId : String) : Prop :=
  parentOf? s check.deviceId = some deviceId ∨
    ∃ edge ∈ s.dependencies, edge.checkId = check.id ∧ edge.deviceId = deviceId

instance (s : Store) (check : Check) (deviceId : String) : Decidable (Watches s check deviceId) :=
  inferInstanceAs (Decidable (_ ∨ _))

/-- Whether a row is an open alert of a device. -/
def isOpenOn (deviceId : String) (r : AlertRow) : Bool :=
  r.deviceId == deviceId && r.isActive

/-- Whether two stores look alike to a check. -/
structure SeesAlike (check : Check) (s s' : Store) : Prop where
  windows : s'.windows = s.windows
  devices : s'.devices = s.devices
  dependencies : s'.dependencies = s.dependencies
  own : s'.alerts.filter (isOpenFor check.id) = s.alerts.filter (isOpenFor check.id)
  watched : ∀ deviceId, Watches s check deviceId →
    s'.alerts.filter (isOpenOn deviceId) = s.alerts.filter (isOpenOn deviceId)

theorem readReply_fst (q : Query) (s s' : Store) (r : Except StoreFault q.Answer) :
    (Store.readReply q s r).1 = (Store.readReply q s' r).1 := by
  cases r <;> rfl

theorem isAlerting_iff {deviceId : String} :
    s.isAlerting deviceId = true ↔ s.alerts.filter (isOpenOn deviceId) ≠ [] := by
  simp [Store.isAlerting, isOpenOn]

namespace SeesAlike

variable {s' : Store} (h : SeesAlike check s s')
include h

theorem answer_activeAlert :
    (s'.answer (.activeAlert check.id)).1 = (s.answer (.activeAlert check.id)).1 := by
  rw [Store.answer_activeAlert, Store.answer_activeAlert, Store.openRow?, Store.openRow?, h.own]

theorem coveredAt_eq (now : Timestamp) (deviceId : String) :
    coveredAt s' now deviceId = coveredAt s now deviceId := by
  have hwindows : (s'.answer .enabledWindows).1 = (s.answer .enabledWindows).1 := by
    show (Store.readReply .enabledWindows s' (Store.readWindows (Store.oldestFirst
      WindowRow.startTime (s'.windows.filter (·.enabled))))).1 = _
    rw [h.windows]
    exact readReply_fst _ _ _ _
  unfold coveredAt
  rw [hwindows]

theorem blocking?_eq : blocking? s' check.id = blocking? s check.id := by
  have hrows : s'.dependencies.filter (fun r => r.checkId == check.id && s'.isAlerting r.deviceId) =
      s.dependencies.filter fun r => r.checkId == check.id && s.isAlerting r.deviceId := by
    rw [h.dependencies]
    refine List.filter_congr fun edge hedge => ?_
    by_cases hcheck : edge.checkId = check.id
    · have hwatched := h.watched edge.deviceId (.inr ⟨edge, hedge, hcheck, rfl⟩)
      have halerting : s'.isAlerting edge.deviceId = s.isAlerting edge.deviceId := by
        rw [Bool.eq_iff_iff, isAlerting_iff, isAlerting_iff, hwatched]
      rw [halerting]
    · rw [beq_eq_false_iff_ne.2 hcheck, Bool.false_and, Bool.false_and]
  unfold blocking?
  rw [hrows]

theorem answer_activeAlertsSince {parent : String}
    (hparent : parentOf? s check.deviceId = some parent) (since : Timestamp) :
    (s'.answer (.activeAlertsSince parent since)).1 =
      (s.answer (.activeAlertsSince parent since)).1 := by
  have hrows : ∀ rows : List AlertRow,
      rows.filter (fun r => r.deviceId == parent && r.isActive && since.toMillis ≤ r.triggeredAt) =
        (rows.filter (isOpenOn parent)).filter (fun r => since.toMillis ≤ r.triggeredAt) := by
    intro rows
    rw [List.filter_filter]
    exact List.filter_congr fun r _ => Bool.and_comm _ _
  show (Store.readReply (.activeAlertsSince parent since) s' (Store.readAlerts
    (Store.newestFirst AlertRow.triggeredAt (s'.alerts.filter _)))).1 = _
  rw [hrows, h.watched parent (.inl hparent), ← hrows]
  exact readReply_fst _ _ _ _

theorem parentOf?_eq : parentOf? s' check.deviceId = parentOf? s check.deviceId := by
  unfold parentOf?
  rw [h.devices]

theorem explaining?_eq (since : Timestamp) :
    explaining? s' since check.deviceId = explaining? s since check.deviceId := by
  unfold explaining?
  rw [h.parentOf?_eq]
  cases hparent : parentOf? s check.deviceId with
  | none => rfl
  | some parent =>
    dsimp only
    rw [h.answer_activeAlertsSince hparent since]

/-- The reason to keep a new alert quiet is the same. -/
theorem reason?_eq (now : Timestamp) : reason? rules s' now check = reason? rules s now check := by
  unfold reason? explainingUnder?
  simp only [h.coveredAt_eq, h.blocking?_eq, h.explaining?_eq]

theorem stops_iff (now : Timestamp) : Stops rules s' now check ↔ Stops rules s now check := by
  have hlacks : LacksMoment rules s' now check.deviceId ↔
      LacksMoment rules s now check.deviceId := by
    unfold LacksMoment
    rw [h.parentOf?_eq]
  constructor
  · rintro ⟨huncovered, hunblocked, hmissing⟩
    exact ⟨h.coveredAt_eq now _ ▸ huncovered, h.blocking?_eq ▸ hunblocked, hlacks.1 hmissing⟩
  · rintro ⟨huncovered, hunblocked, hmissing⟩
    exact ⟨(h.coveredAt_eq now _).symm ▸ huncovered, h.blocking?_eq.symm ▸ hunblocked,
      hlacks.2 hmissing⟩

/-- **What keeps a new alert quiet is the same**, and so is whether it can be told. -/
theorem result_suppression_eq (hw : w.backend = .sound) :
    ((suppression rules check).run w s').result = ((suppression rules check).run w s).result := by
  by_cases hstops : Stops rules s w.now check
  · rw [result_suppression_of_stops hw hstops,
      result_suppression_of_stops hw ((h.stops_iff w.now).2 hstops)]
  · rw [result_suppression hw hstops,
      result_suppression hw fun hstops' => hstops ((h.stops_iff w.now).1 hstops'),
      h.reason?_eq]

/-- **Stores that look alike to a check make the same of its results.** -/
theorem effect_eq (hw : w.backend = .sound) (success : Bool) :
    effect rules w s' check success streak = effect rules w s check success streak := by
  unfold effect
  rw [h.answer_activeAlert, h.result_suppression_eq hw]

end SeesAlike

end Alerting

/-! ## Calls that stop -/

namespace Monitor

variable {m : Monitor} {w : World} {check : Check} {result : CheckResult}

/-- **A result is not processed to its end** just if it is a failure that is due, of a check that
has no open alert, and the look-ups stop for want of a moment to look back to. -/
theorem result_process_eq_none_iff (hw : w.backend = .sound) :
    (m.process w check result).trace.result = none ↔ result.success = false ∧
      m.rules.threshold ≤ m.streaks.count check.id + 1 ∧ ¬m.store.HasOpenAlert check.id ∧
      Alerting.Stops m.rules m.store w.now check := by
  have hcounted (hfailed : result.success = false) :
      (m.streaks.record check.id result.success).count check.id = m.streaks.count check.id + 1 := by
    rw [hfailed]
    exact m.streaks.count_fail_self check.id
  unfold process count
  dsimp only
  rw [Alerting.run_react_given hw]
  dsimp only
  rw [Alerting.Effect.result_given_eq_none_iff, Alerting.effect_eq_stopped_iff hw]
  refine and_congr_right fun hfailed => ?_
  rw [hcounted hfailed]

/-- What is not processed to its end leaves the store as it was and tells nothing. -/
theorem process_of_stopped (hw : w.backend = .sound)
    (h : (m.process w check result).trace.result = none) :
    (m.process w check result).monitor.store = m.store ∧
      (m.process w check result).trace.events = [] := by
  unfold process count at h ⊢
  dsimp only at h ⊢
  rw [Alerting.run_react_given hw] at h ⊢
  dsimp only at h ⊢
  rw [Alerting.Effect.result_given_eq_none_iff] at h
  rw [h]
  exact ⟨rfl, rfl⟩

end Monitor

end NetWatch
