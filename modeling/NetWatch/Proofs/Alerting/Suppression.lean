/-
NetWatch.Proofs.Alerting.Suppression — what the look-ups before a new alert come to.

Three things may keep a new alert quiet, and each is looked up in turn
(`suppression_for`). Where the store answers soundly, what each look-up comes to
is a function of the store and the clock alone, and the first that finds
something decides (`result_suppression`).

Only the look-up of the parent (`get_parent_active_alerts`) can stop a call for
good, namely if the moment from which on alerts count lies outside of the
calendar. That it does so is told by `Stops`; `WindowInRange` rules it out,
whatever is in the store.
-/
import NetWatch.Proofs.Alerting.Calls

namespace NetWatch

open Script

namespace Alerting

variable {w : World} {s : Store} {rules : AlertRules} {check : Check}

/-- Whether an enabled window that covers a device is in force, as far as the
windows can be read. -/
def coveredAt (s : Store) (now : Timestamp) (deviceId : String) : Bool :=
  match (s.answer .enabledWindows).1 with
  | .ok windows => Maintenance.covered windows now deviceId
  | .error _ => false

/-- The first device that a check depends on and that has an open alert. -/
def blocking? (s : Store) (checkId : String) : Option String :=
  (Store.oldestFirst DependencyRow.createdAt
    (s.dependencies.filter fun r => r.checkId == checkId && s.isAlerting r.deviceId)).head?.map
      fun r => shownText r.deviceId

/-- The parent of a device, if the device is known and has one. -/
def parentOf? (s : Store) (deviceId : String) : Option String :=
  ((s.devices.find? (·.id == deviceId)).map DeviceRow.toDevice).bind Device.parentId

/-- The parent of a device, if it has an open alert since a moment. -/
def explaining? (s : Store) (since : Timestamp) (deviceId : String) : Option String :=
  match parentOf? s deviceId with
  | none => none
  | some parent =>
    match (s.answer (.activeAlertsSince parent since)).1 with
    | .ok (_ :: _) => some parent
    | .ok [] => none
    | .error _ => none

/-- A look-up is answered, and nothing else happens. -/
theorem run_look {α : Type} (hw : w.backend = .sound) {q : Query} (hq : q.isLookup = true)
    (f : q.Reply → Script α) : (query q >>= f).run w s = (f (s.answer q).1).run w s := by
  rw [query_bind]
  simp only [Script.run, hw, Backend.sound, Store.answer_snd_of_isLookup s hq]

theorem run_ago {α : Type} {window : Duration} {since : Timestamp}
    (h : w.now.sub? window = some since) (f : Timestamp → Script α) :
    (ago window >>= f).run w s = (f since).run w s := by
  unfold ago
  rw [clock_bind]
  simp only [Script.run, h, done_bind]

theorem result_underMaintenance (hw : w.backend = .sound) :
    ((underMaintenance rules check).run w s).result =
      some (rules.maintenance && coveredAt s w.now check.deviceId) := by
  unfold underMaintenance
  cases hm : rules.maintenance with
  | false => rfl
  | true =>
    simp only [if_true, Bool.true_and, coveredAt, now_bind, Script.run, Maintenance.ofDevice,
      bind_assoc, pure_bind, run_look hw (q := .enabledWindows) rfl]
    cases (s.answer .enabledWindows).1 <;> rfl

theorem result_blockedBy (hw : w.backend = .sound) :
    ((blockedBy check).run w s).result = some (blocking? s check.id) := by
  unfold blockedBy
  rw [run_look hw (q := .blockingDevice check.id) rfl]
  rfl

/-- The parent that explains the trouble of a device, if that is looked at. -/
def explainingUnder? (rules : AlertRules) (s : Store) (now : Timestamp) (deviceId : String) :
    Option String :=
  ((rules.correlation.bind now.sub?).bind fun since => explaining? s since deviceId)

/-- Whether a device has a parent whose alerts cannot be looked up, for the moment from which on
they count lies outside of the calendar. -/
def LacksMoment (rules : AlertRules) (s : Store) (now : Timestamp) (deviceId : String) : Prop :=
  (parentOf? s deviceId).isSome = true ∧
    ∃ window, rules.correlation = some window ∧ now.sub? window = none

theorem explaining?_of_parentless {since : Timestamp} {deviceId : String}
    (h : parentOf? s deviceId = none) : explaining? s since deviceId = none := by
  unfold explaining?
  rw [h]

/-- Without correlation no parent explains anything. -/
theorem result_explainedBy_of_none (hwindow : rules.correlation = none) :
    ((explainedBy rules check).run w s).result = some none := by
  unfold explainedBy
  rw [hwindow]
  rfl

/-- **What the look-up of the parent comes to.** -/
theorem result_explainedBy_of_some (hw : w.backend = .sound) {window : Duration}
    (hwindow : rules.correlation = some window) :
    ((explainedBy rules check).run w s).result =
      match parentOf? s check.deviceId with
      | none => some none
      | some _ => (w.now.sub? window).map fun since => explaining? s since check.deviceId := by
  have hdevice : (s.answer (.device check.deviceId)).1 =
      .ok ((s.devices.find? (·.id == check.deviceId)).map DeviceRow.toDevice) := rfl
  simp only [explainedBy, hwindow, Correlation.ofDevice, Correlation.parentAlerts, bind_assoc,
    run_look hw (q := .device check.deviceId) rfl, hdevice, explaining?, parentOf?]
  cases (s.devices.find? (·.id == check.deviceId)).map DeviceRow.toDevice with
  | none => rfl
  | some device =>
    cases hparent : device.parentId with
    | none =>
      simp only [hparent, Option.bind_some]
      rfl
    | some parent =>
      cases hsince : w.now.sub? window with
      | none =>
        simp only [hparent, Option.bind_some, bind_assoc, ago, clock_bind, Script.run, hsince]
        rfl
      | some since =>
        simp only [hparent, Option.bind_some, bind_assoc, run_ago hsince,
          run_look hw (q := .activeAlertsSince parent since) rfl, Option.map_some]
        rcases (s.answer (.activeAlertsSince parent since)).1 with e | _ | ⟨a, rest⟩ <;> rfl

theorem result_explainedBy_of_lacks (hw : w.backend = .sound)
    (h : LacksMoment rules s w.now check.deviceId) :
    ((explainedBy rules check).run w s).result = none := by
  obtain ⟨hparent, window, hwindow, hnever⟩ := h
  obtain ⟨parent, hparent⟩ := Option.isSome_iff_exists.1 hparent
  rw [result_explainedBy_of_some hw hwindow, hparent, hnever]
  rfl

theorem result_explainedBy (hw : w.backend = .sound)
    (h : ¬LacksMoment rules s w.now check.deviceId) :
    ((explainedBy rules check).run w s).result =
      some (explainingUnder? rules s w.now check.deviceId) := by
  unfold explainingUnder?
  cases hwindow : rules.correlation with
  | none => exact result_explainedBy_of_none hwindow
  | some window =>
    rw [result_explainedBy_of_some hw hwindow, Option.bind_some]
    cases hparent : parentOf? s check.deviceId with
    | none => simp [explaining?_of_parentless hparent]
    | some parent =>
      cases hsince : w.now.sub? window with
      | none => exact absurd ⟨Option.isSome_of_eq_some hparent, window, hwindow, hsince⟩ h
      | some since => rfl

/-! ## All three -/

/-- What keeps a new alert quiet: the first of the three that applies. -/
def reason? (rules : AlertRules) (s : Store) (now : Timestamp) (check : Check) :
    Option Suppression :=
  if rules.maintenance && coveredAt s now check.deviceId then some .maintenance
  else
    match blocking? s check.id with
    | some device => some (.dependency device)
    | none => (explainingUnder? rules s now check.deviceId).map .parent

/-- Whether the look-ups before a new alert stop for good: neither maintenance nor a dependency
keeps it quiet, and the alerts of the parent cannot be looked up. -/
structure Stops (rules : AlertRules) (s : Store) (now : Timestamp) (check : Check) : Prop where
  uncovered : (rules.maintenance && coveredAt s now check.deviceId) = false
  unblocked : blocking? s check.id = none
  lacks : LacksMoment rules s now check.deviceId

/-- The moments from which on alerts of a parent count lie in the calendar. -/
def WindowInRange (rules : AlertRules) (now : Timestamp) : Prop :=
  ∀ window, rules.correlation = some window → (now.sub? window).isSome = true

theorem WindowInRange.not_stops {now : Timestamp} (h : WindowInRange rules now) :
    ¬Stops rules s now check := by
  rintro ⟨-, -, -, window, hwindow, hnever⟩
  have hsome := h window hwindow
  rw [hnever] at hsome
  cases hsome

/-- The look-ups go on to the parent if neither of the others is a reason. -/
theorem result_suppression_of_unblocked (hw : w.backend = .sound)
    (huncovered : (rules.maintenance && coveredAt s w.now check.deviceId) = false)
    (hunblocked : blocking? s check.id = none) :
    ((suppression rules check).run w s).result =
      (((explainedBy rules check).run w s).result).map (Option.map .parent) := by
  unfold suppression
  rw [(onlyLooks_underMaintenance rules check).run_bind hw (result_underMaintenance hw),
    huncovered, if_neg Bool.false_ne_true,
    (onlyLooks_blockedBy check).run_bind hw (result_blockedBy hw), hunblocked]
  cases hfound : ((explainedBy rules check).run w s).result with
  | none => exact congrArg Trace.result (run_bind_of_none hfound)
  | some parent =>
    refine (congrArg Trace.result ((onlyLooks_explainedBy rules check).run_bind hw hfound)).trans ?_
    cases parent <;> rfl

theorem result_suppression_of_stops (hw : w.backend = .sound) (h : Stops rules s w.now check) :
    ((suppression rules check).run w s).result = none := by
  rw [result_suppression_of_unblocked hw h.uncovered h.unblocked,
    result_explainedBy_of_lacks hw h.lacks]
  rfl

/-- **What the look-ups before a new alert come to**, if they do not stop for good. -/
theorem result_suppression (hw : w.backend = .sound) (hgoes : ¬Stops rules s w.now check) :
    ((suppression rules check).run w s).result = some (reason? rules s w.now check) := by
  unfold reason?
  cases hcovered : rules.maintenance && coveredAt s w.now check.deviceId with
  | true =>
    unfold suppression
    rw [(onlyLooks_underMaintenance rules check).run_bind hw (result_underMaintenance hw), hcovered]
    rfl
  | false =>
    cases hblocked : blocking? s check.id with
    | some device =>
      unfold suppression
      rw [(onlyLooks_underMaintenance rules check).run_bind hw (result_underMaintenance hw),
        hcovered, if_neg Bool.false_ne_true,
        (onlyLooks_blockedBy check).run_bind hw (result_blockedBy hw), hblocked]
      rfl
    | none =>
      rw [result_suppression_of_unblocked hw hcovered hblocked,
        result_explainedBy hw fun hlacks => hgoes ⟨hcovered, hblocked, hlacks⟩]
      rfl

/-- The look-ups stop for good just in this case. -/
theorem result_suppression_eq_none_iff (hw : w.backend = .sound) :
    ((suppression rules check).run w s).result = none ↔ Stops rules s w.now check := by
  refine ⟨fun hnone => Classical.byContradiction fun hgoes => ?_, result_suppression_of_stops hw⟩
  rw [result_suppression hw hgoes] at hnone
  cases hnone

end Alerting

end NetWatch
