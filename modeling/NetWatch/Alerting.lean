/-
NetWatch.Alerting — when results become alerts (`Alerter`).

Every check has a streak: how often it has failed since it last succeeded. Once
a streak reaches the threshold and the check has no open alert, one is raised;
from twice the threshold on it is critical. A success ends the streak and
resolves the open alert.

A new alert is suppressed when the device is under maintenance, when the check
depends on a device that has an open alert, or when the parent of the device
explains its trouble; the first of these that applies counts. A look-up that
fails suppresses nothing.
-/
import NetWatch.Correlation
import NetWatch.Maintenance

namespace NetWatch

/-! ## Streaks -/

/-- How often each check has failed in a row (the failure counters of `Alerter`). -/
structure Streaks where
  entries : List (String × UInt32)
  deriving DecidableEq, Repr

namespace Streaks

/-- No check has failed. -/
def empty : Streaks := ⟨[]⟩

/-- How often a check has failed in a row (`failure_count`). -/
def count (s : Streaks) (checkId : String) : UInt32 :=
  ((s.entries.find? (·.1 == checkId)).map (·.2)).getD 0

def clear (s : Streaks) (checkId : String) : Streaks :=
  ⟨s.entries.filter (·.1 != checkId)⟩

/-- Counts one more failure of a check. -/
def fail (s : Streaks) (checkId : String) : Streaks :=
  ⟨(checkId, s.count checkId + 1) :: (s.clear checkId).entries⟩

/-- Counts a result. -/
def record (s : Streaks) (checkId : String) (success : Bool) : Streaks :=
  if success then s.clear checkId else s.fail checkId

/-! ### Laws -/

theorem count_clear_self (s : Streaks) (c : String) : (s.clear c).count c = 0 := by
  have h : (s.entries.filter (·.1 != c)).find? (·.1 == c) = none := by
    rw [List.find?_eq_none]
    intro x hx
    simpa using (List.mem_filter.1 hx).2
  simp [count, clear, h]

theorem count_clear_of_ne (s : Streaks) {c d : String} (h : d ≠ c) :
    (s.clear c).count d = s.count d := by
  have hfind : (s.entries.filter (·.1 != c)).find? (·.1 == d) = s.entries.find? (·.1 == d) := by
    induction s.entries with
    | nil => rfl
    | cons x rest ih =>
      by_cases hx : x.1 = c
      · have hd : ¬x.1 = d := fun e => h (e.symm.trans hx)
        simp [hx, ih, Ne.symm h]
      · by_cases hd : x.1 = d
        · simp [hd, h]
        · simp [hx, hd, ih]
  simp [count, clear, hfind]

theorem count_fail_self (s : Streaks) (c : String) : (s.fail c).count c = s.count c + 1 := by
  simp [count, fail]

theorem count_fail_of_ne (s : Streaks) {c d : String} (h : d ≠ c) :
    (s.fail c).count d = s.count d := by
  have hc : (c == d) = false := by simpa using Ne.symm h
  rw [← count_clear_of_ne s h]
  simp [count, fail, hc]

theorem count_record_of_ne (s : Streaks) {c d : String} (h : d ≠ c) (success : Bool) :
    (s.record c success).count d = s.count d := by
  cases success with
  | true => exact s.count_clear_of_ne h
  | false => exact s.count_fail_of_ne h

end Streaks

/-! ## Rules -/

/-- How alerts are raised (`Alerter::new`, `with_correlation`, `with_maintenance`). -/
structure AlertRules where
  /-- How many failures in a row raise an alert. -/
  threshold : UInt32
  /-- How far back an alert of the parent explains a failure; unset if that is not looked at. -/
  correlation : Option Duration
  /-- Whether maintenance windows are looked at. -/
  maintenance : Bool
  threshold_pos : 1 ≤ threshold

namespace AlertRules

/-- Rules with a threshold; zero is taken as one. -/
def create (threshold : UInt32) (correlation : Option Duration) (maintenance : Bool) :
    AlertRules :=
  if h : 1 ≤ threshold then ⟨threshold, correlation, maintenance, h⟩
  else ⟨1, correlation, maintenance, by decide⟩

/-- The streak from which on a new alert is critical: twice the threshold, as far as words go. -/
def criticalAt (r : AlertRules) : UInt32 :=
  if r.threshold.toNat * 2 < 4294967296 then r.threshold * 2 else 4294967295

/-- How bad a new alert is at a streak. -/
def severityAt (r : AlertRules) (streak : UInt32) : Severity :=
  if r.criticalAt ≤ streak then .critical else .warning

end AlertRules

/-! ## Suppression -/

/-- Why a new alert is kept quiet (`Suppression`). -/
inductive Suppression where
  | maintenance
  | dependency (deviceId : String)
  | parent (deviceId : String)
  deriving DecidableEq, Repr

/-- The device that explains the suppression (`caused_by`). -/
def Suppression.cause : Suppression → Option String
  | .maintenance => none
  | .dependency d => some d
  | .parent d => some d

namespace Alerting

/-- Whether the device of a check is under maintenance now, if that is looked at. -/
def underMaintenance (rules : AlertRules) (check : Check) : Script Bool :=
  if rules.maintenance then do
    let now ← Script.now
    match ← Maintenance.ofDevice now check.deviceId with
    | .ok b => return b
    | .error _ => return false
  else return false

/-- A device that the check depends on and that has an open alert. -/
def blockedBy (check : Check) : Script (Option String) := do
  match ← Script.query (.blockingDevice check.id) with
  | .ok device => return device
  | .error _ => return none

/-- The parent that explains the trouble of the check's device, if that is looked at. -/
def explainedBy (rules : AlertRules) (check : Check) : Script (Option String) :=
  match rules.correlation with
  | none => return none
  | some window => do
    match ← Correlation.ofDevice check.deviceId window with
    | .ok finding => return if finding.suppressed then finding.parentId else none
    | .error _ => return none

/-- Why a new alert for a check is kept quiet, if it is (`suppression_for`). -/
def suppression (rules : AlertRules) (check : Check) : Script (Option Suppression) := do
  if ← underMaintenance rules check then return some .maintenance
  match ← blockedBy check with
  | some device => return some (.dependency device)
  | none =>
    match ← explainedBy rules check with
    | some device => return some (.parent device)
    | none => return none

/-! ## Raising and resolving -/

/-- What a new alert says: the error of the result, or how often the check failed. -/
def message (check : Check) (result : CheckResult) (streak : UInt32) : String :=
  match result.errorMessage with
  | some error => if error = "" then default else error
  | none => default
where
  /-- How often the check failed. -/
  default : String :=
    "check " ++ check.id ++ " failed " ++ toString streak.toNat ++ " consecutive times"

def newAlert (rules : AlertRules) (check : Check) (result : CheckResult) (streak : UInt32)
    (id : String) (now : Timestamp) (why : Option Suppression) : Alert :=
  ⟨id, check.id, check.deviceId, rules.severityAt streak, message check result streak, now, none,
    none, streak, why.isSome, why.bind Suppression.cause⟩

/-- Under which topic a new alert is told of. -/
def openingTopic (why : Option Suppression) : String :=
  if why.isSome then Topic.alertSuppressed else Topic.alertTriggered

/-- Raises an alert for a check that has none open (the end of `handle_failure`); gives back what
was raised. -/
def raise (rules : AlertRules) (check : Check) (result : CheckResult) (streak : UInt32)
    (id : String) : Script (Option Alert) := do
  let now ← Script.now
  let why ← suppression rules check
  let alert := newAlert rules check result streak id now why
  match ← Script.query (.insertAlert alert) with
  | .error _ => return none
  | .ok _ =>
    Script.announce (openingTopic why) (.alert alert)
    return some alert

/-- What a failure leads to (`handle_failure`). -/
def onFailure (rules : AlertRules) (check : Check) (result : CheckResult) (streak : UInt32)
    (id : String) : Script (Option Alert) :=
  if streak < rules.threshold then return none
  else do
    match ← Script.query (.activeAlert check.id) with
    | .error _ => return none
    | .ok (some _) => return none
    | .ok none => raise rules check result streak id

/-- What a success leads to (`handle_success`). -/
def onSuccess (check : Check) : Script Unit := do
  match ← Script.query (.activeAlert check.id) with
  | .error _ => return ()
  | .ok none => return ()
  | .ok (some alert) =>
    let now ← Script.now
    match ← Script.query (.resolveAlert (alert : Alert).id now) with
    | .error _ => return ()
    | .ok _ =>
      Script.announce Topic.alertResolved (.alert { (alert : Alert) with resolvedAt := some now })

/-- What a result leads to, once the streak has counted it (`process_result`); gives back the alert
that was raised. -/
def react (rules : AlertRules) (streaks : Streaks) (check : Check) (result : CheckResult)
    (id : String) : Script (Option Alert) :=
  if result.success then do
    onSuccess check
    return none
  else onFailure rules check result (streaks.count check.id) id

end Alerting

end NetWatch
