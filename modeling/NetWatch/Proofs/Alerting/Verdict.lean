/-
NetWatch.Proofs.Alerting.Verdict — which new alerts are kept quiet, and why (`suppression_for`).

What is decided about a new alert is stated here on the rows of the store
alone, as the first of four cases that applies (`Alerting.Verdict`): the device
is under maintenance, the check depends on a device that has an open alert, the
parent of the device explains its trouble, or none of these. The look-ups come
to the same in every store that queries with plain text lead to
(`Alerting.verdict_reason?`).

`Monitor.alert_has_verdict` is the point: the alert that a due failure enters
says what the verdict is, and so does the event that tells of it.
-/
import NetWatch.Execution
import NetWatch.Proofs.Alerting.Suppression
import NetWatch.Proofs.Store.Reachable
import Mathlib

namespace NetWatch

/-! ## What the rows say -/

namespace Store

/-- A dependency of a check on a device that has an open alert. -/
structure IsBlocking (s : Store) (checkId : String) (edge : DependencyRow) : Prop where
  mem : edge ∈ s.dependencies
  check : edge.checkId = checkId
  alerting : ∃ row ∈ s.alerts, row.deviceId = edge.deviceId ∧ row.resolvedAt = none

/-- Whether a check depends on a device that has an open alert, no other such
dependency being older. -/
def Blocks (s : Store) (checkId deviceId : String) : Prop :=
  ∃ edge, s.IsBlocking checkId edge ∧ edge.deviceId = deviceId ∧
    ∀ other, s.IsBlocking checkId other → edge.createdAt ≤ other.createdAt

/-- Whether a device hangs off another, which has a name. -/
def HangsOff (s : Store) (deviceId parent : String) : Prop :=
  parent ≠ "" ∧ ∃ row ∈ s.devices, row.id = deviceId ∧ row.parentId = some parent

/-- Whether the parent of a device has an open alert since a moment. -/
def Explains (s : Store) (since : Timestamp) (deviceId parent : String) : Prop :=
  s.HangsOff deviceId parent ∧
    ∃ row ∈ s.alerts, row.deviceId = parent ∧ row.resolvedAt = none ∧
      since.toMillis ≤ row.triggeredAt

end Store

namespace Alerting

variable {rules : AlertRules} {s : Store} {now : Timestamp} {check : Check}

/-- Whether the parent of a device explains its trouble, if that is looked at. -/
def ExplainsUnder (rules : AlertRules) (s : Store) (now : Timestamp)
    (deviceId parent : String) : Prop :=
  ∃ window since, rules.correlation = some window ∧ now.sub? window = some since ∧
    s.Explains since deviceId parent

/-- What is decided about a new alert for a check: whether it is suppressed, and
which device explains it. The first case that applies counts. -/
inductive Verdict (rules : AlertRules) (s : Store) (now : Timestamp) (check : Check) :
    Bool → Option String → Prop where
  | maintenance (hlooked : rules.maintenance = true)
    (h : s.UnderMaintenance now check.deviceId) : Verdict rules s now check true none
  | dependency {device : String}
    (hnot : ¬(rules.maintenance = true ∧ s.UnderMaintenance now check.deviceId))
    (h : s.Blocks check.id device) : Verdict rules s now check true (some device)
  | parent {parent : String}
    (hnot : ¬(rules.maintenance = true ∧ s.UnderMaintenance now check.deviceId))
    (hfree : ∀ edge, ¬s.IsBlocking check.id edge)
    (h : ExplainsUnder rules s now check.deviceId parent) :
    Verdict rules s now check true (some parent)
  | announced
    (hnot : ¬(rules.maintenance = true ∧ s.UnderMaintenance now check.deviceId))
    (hfree : ∀ edge, ¬s.IsBlocking check.id edge)
    (hnone : ∀ parent, ¬ExplainsUnder rules s now check.deviceId parent) :
    Verdict rules s now check false none

/-! ## The look-ups come to the same -/

/-- Maintenance. -/
theorem coveredAt_iff (h : s.Plain) (now : Timestamp) (deviceId : String) :
    coveredAt s now deviceId = true ↔ s.UnderMaintenance now deviceId := by
  obtain ⟨windows, hwindows, hcovered⟩ := Store.exists_enabledWindows h.windows
  unfold coveredAt
  rw [hwindows]
  exact hcovered now deviceId

theorem mem_blocking {checkId : String} {edge : DependencyRow} :
    edge ∈ (s.dependencies.filter fun r => r.checkId == checkId && s.isAlerting r.deviceId) ↔
      s.IsBlocking checkId edge := by
  rw [List.mem_filter, Bool.and_eq_true, beq_iff_eq]
  have halerting : s.isAlerting edge.deviceId = true ↔
      ∃ row ∈ s.alerts, row.deviceId = edge.deviceId ∧ row.resolvedAt = none := by
    simp [Store.isAlerting, AlertRow.isActive]
  rw [halerting]
  constructor
  · rintro ⟨hmem, hcheck, hrow⟩
    exact ⟨hmem, hcheck, hrow⟩
  · rintro ⟨hmem, hcheck, hrow⟩
    exact ⟨hmem, hcheck, hrow⟩

/-- Dependencies: what is found is the device of the oldest that counts. -/
theorem blocks_of_blocking? (h : s.Plain) {checkId device : String}
    (hfound : blocking? s checkId = some device) : s.Blocks checkId device := by
  obtain ⟨edge, hedge, rfl⟩ := Option.map_eq_some_iff.1 hfound
  obtain ⟨hmem, holdest⟩ := Store.head?_oldestFirst hedge
  have hblocking := mem_blocking.1 hmem
  refine ⟨edge, hblocking, ?_, fun other hother => holdest other (mem_blocking.2 hother)⟩
  rw [shownText_eq_self (h.dependencies edge hblocking.mem)]

theorem not_isBlocking_of_blocking? {checkId : String} (hnone : blocking? s checkId = none)
    (edge : DependencyRow) : ¬s.IsBlocking checkId edge := by
  intro hblocking
  have hnil := Store.head?_oldestFirst_eq_none.1 (Option.map_eq_none_iff.1 hnone)
  have hmem := mem_blocking.2 hblocking
  rw [hnil] at hmem
  cases hmem

theorem parentOf?_eq_some_iff (h : s.Plain) {deviceId parent : String} :
    parentOf? s deviceId = some parent ↔ s.HangsOff deviceId parent := by
  have hshown : ∀ row ∈ s.devices, row.toDevice.parentId = some parent ↔
      parent ≠ "" ∧ row.parentId = some parent := by
    intro row hrow
    cases hparent : row.parentId with
    | none => simp [DeviceRow.toDevice, hparent]
    | some p =>
      have hplain := shownText_eq_self (h.devices row hrow p hparent)
      simp only [DeviceRow.toDevice, hparent, Option.map_some, hplain, Option.filter_eq_some_iff,
        Option.some.injEq, decide_eq_true_eq]
      constructor
      · rintro ⟨rfl, hne⟩
        exact ⟨hne, rfl⟩
      · rintro ⟨hne, rfl⟩
        exact ⟨rfl, hne⟩
  unfold parentOf? Store.HangsOff
  constructor
  · intro hfound
    obtain ⟨device, hdevice, hparent⟩ := Option.bind_eq_some_iff.1 hfound
    obtain ⟨row, hrow, rfl⟩ := Option.map_eq_some_iff.1 hdevice
    obtain ⟨hmem, hid⟩ := h.find?_device.1 hrow
    obtain ⟨hne, hrowParent⟩ := (hshown row hmem).1 hparent
    exact ⟨hne, row, hmem, hid, hrowParent⟩
  · rintro ⟨hne, row, hmem, hid, hparent⟩
    rw [h.find?_device.2 ⟨hmem, hid⟩]
    exact (hshown row hmem).2 ⟨hne, hparent⟩

/-- Correlation: what is found is the parent, if it has an open alert. -/
theorem explaining?_eq_some_iff (h : s.Plain) {since : Timestamp} {deviceId parent : String} :
    explaining? s since deviceId = some parent ↔ s.Explains since deviceId parent := by
  unfold explaining? Store.Explains
  rw [← parentOf?_eq_some_iff h]
  cases parentOf? s deviceId with
  | none => simp
  | some p =>
    obtain ⟨as, has, hnil⟩ := Store.exists_answer_activeAlertsSince h.alerts p since
    dsimp only
    rw [has]
    cases as with
    | nil =>
      have hnone := hnil.1 rfl
      simp only [reduceCtorEq, false_iff, Option.some.injEq]
      rintro ⟨rfl, row, hrow, hdevice, hopen, hlate⟩
      exact hnone row hrow hdevice hopen hlate
    | cons a rest =>
      have hsome : ∃ row ∈ s.alerts, row.deviceId = p ∧ row.resolvedAt = none ∧
          since.toMillis ≤ row.triggeredAt := by
        by_contra hnone
        refine absurd (hnil.2 fun row hrow hdevice hopen hlate => ?_) (by simp)
        exact hnone ⟨row, hrow, hdevice, hopen, hlate⟩
      constructor
      · rintro ⟨⟩
        exact ⟨rfl, hsome⟩
      · rintro ⟨heq, -⟩
        exact heq

theorem explainingUnder?_eq_some_iff (h : s.Plain) {deviceId parent : String} :
    explainingUnder? rules s now deviceId = some parent ↔
      ExplainsUnder rules s now deviceId parent := by
  unfold explainingUnder? ExplainsUnder
  constructor
  · intro hfound
    obtain ⟨since, hsince, hexplaining⟩ := Option.bind_eq_some_iff.1 hfound
    obtain ⟨window, hwindow, hsub⟩ := Option.bind_eq_some_iff.1 hsince
    exact ⟨window, since, hwindow, hsub, (explaining?_eq_some_iff h).1 hexplaining⟩
  · rintro ⟨window, since, hwindow, hsub, hexplains⟩
    rw [hwindow, Option.bind_some, hsub, Option.bind_some]
    exact (explaining?_eq_some_iff h).2 hexplains

/-- **The look-ups come to the verdict.** -/
theorem verdict_reason? (h : s.Plain) :
    Verdict rules s now check (reason? rules s now check).isSome
      ((reason? rules s now check).bind Suppression.cause) := by
  have hcovered : (rules.maintenance && coveredAt s now check.deviceId) = true ↔
      rules.maintenance = true ∧ s.UnderMaintenance now check.deviceId := by
    rw [Bool.and_eq_true, coveredAt_iff h]
  unfold reason?
  split
  · rename_i hyes
    obtain ⟨hlooked, hunder⟩ := hcovered.1 hyes
    exact .maintenance hlooked hunder
  · rename_i hno
    have hnot := fun hunder => hno (hcovered.2 hunder)
    cases hblocking : blocking? s check.id with
    | some device => exact .dependency hnot (blocks_of_blocking? h hblocking)
    | none =>
      have hfree := not_isBlocking_of_blocking? hblocking
      cases hexplaining : explainingUnder? rules s now check.deviceId with
      | some parent =>
        exact .parent hnot hfree ((explainingUnder?_eq_some_iff h).1 hexplaining)
      | none =>
        refine .announced hnot hfree fun parent hexplains => ?_
        rw [(explainingUnder?_eq_some_iff h).2 hexplains] at hexplaining
        cases hexplaining

end Alerting

/-! ## New alerts -/

namespace Monitor

variable {m : Monitor} {w : World} {check : Check} {result : CheckResult}

/-- What comes of a failure. -/
theorem process_of_failed (hfailed : result.success = false) :
    (m.process w check result).trace =
      (Alerting.onFailure m.rules check result ((m.streaks.fail check.id).count check.id)
        m.names.next).run w m.store := by
  unfold process count
  rw [hfailed]
  dsimp only
  rw [Alerting.react_of_failed hfailed]
  rfl

/-- **A new alert says what the verdict is.** In a store that queries with plain
text lead to, a failure that is due and whose check has no open alert enters
one, if its name is not taken. Whether it is suppressed and which device
explains it is as the rows say, and it is told of under the topic for that. -/
theorem alert_has_verdict (hstore : m.store.Reachable) (now : Timestamp)
    (network : Http.Request → Http.Reply) (hrange : Alerting.WindowInRange m.rules now)
    (hvacant : ∀ row ∈ m.store.alerts, row.checkId = check.id → row.resolvedAt ≠ none)
    (hfailed : result.success = false)
    (hdue : m.rules.threshold ≤ (m.streaks.fail check.id).count check.id) :
    let step := m.process ⟨now, .sound, network⟩ check result
    (∃ a : Alert, a.id = m.names.next ∧ a.checkId = check.id ∧
      Alerting.Verdict m.rules m.store now check a.suppressed a.suppressedBy ∧
      step.monitor.store = { m.store with alerts := m.store.alerts ++ [a.toRow] } ∧
      step.trace.events = [.create
        (if a.suppressed then Topic.alertSuppressed else Topic.alertTriggered) (.alert a) now]) ∨
    ((∃ row ∈ m.store.alerts, row.id = m.names.next) ∧
      step.monitor.store = m.store ∧ step.trace.events = []) := by
  intro step
  let w : World := ⟨now, .sound, network⟩
  have htrace : step.trace = _ := process_of_failed (m := m) (w := w) hfailed
  have hkept : step.monitor.store = step.trace.store := rfl
  have hopen : m.store.alerts.filter (AlertRow.isOpenFor check.id) = [] := by
    rw [List.filter_eq_nil_iff]
    intro row hrow hisOpen
    obtain ⟨hcheck, hactive⟩ := Bool.and_eq_true_iff.1 hisOpen
    exact hvacant row hrow (beq_iff_eq.1 hcheck) (Option.isNone_iff_eq_none.1 hactive)
  have hnone := Store.answer_activeAlert_eq_none hopen
  have hwhy : ((Alerting.suppression m.rules check).run w m.store).result =
      some (Alerting.reason? m.rules m.store now check) :=
    Alerting.result_suppression rfl hrange.not_stops
  by_cases htaken : ∃ row ∈ m.store.alerts, row.id = m.names.next
  · right
    rw [Alerting.run_onFailure_of_taken rfl hdue hnone hwhy htaken] at htrace
    rw [hkept, htrace]
    exact ⟨htaken, rfl, rfl⟩
  · left
    have hfree : ∀ row ∈ m.store.alerts, row.id ≠ m.names.next :=
      fun row hrow hid => htaken ⟨row, hrow, hid⟩
    rw [Alerting.run_onFailure_of_vacant rfl hdue hnone hwhy hfree] at htrace
    rw [hkept, htrace]
    exact ⟨_, rfl, rfl, Alerting.verdict_reason? hstore.plain, rfl, rfl⟩

/-- A failure behind a router whose alert, itself suppressed, is as old as the
window of correlation allows. -/
theorem alert_has_verdict_of_router_down :
    ∃ (m : Monitor) (now : Timestamp) (check : Check) (result : CheckResult), m.store.Reachable ∧
      let step := m.process ⟨now, .sound, fun _ => .unreachable⟩ check result
      (∃ a : Alert, a.id = m.names.next ∧ a.checkId = check.id ∧
        Alerting.Verdict m.rules m.store now check a.suppressed a.suppressedBy ∧
        step.monitor.store = { m.store with alerts := m.store.alerts ++ [a.toRow] } ∧
        step.trace.events = [.create
          (if a.suppressed then Topic.alertSuppressed else Topic.alertTriggered) (.alert a)
          now]) ∧
      (step.monitor.store.alerts.map fun row => (row.id, row.suppressed, row.suppressedBy)) =
        [("alert-1", true, none), ("alert-2", true, some "router-1")] := by
  let now : Timestamp := .ofMillis 300000
  let check : Check := .create "check-1" "device-1" "tcp" "device-1:22" .epoch
  let result : CheckResult := .failed check "timeout" now
  let cause : Alert := ⟨"alert-1", "check-2", "router-1", .warning, "down", .epoch, none, none, 3,
    true, none⟩
  let entry : Query := .upsertDevice ((Device.create "device-1" "").withParent "router-1")
  let outage : Query := .insertAlert cause
  let store := ((Store.empty.answer entry).2.answer outage).2
  let m : Monitor :=
    ⟨.create 1 (Duration.ofSeconds? 300) true, .empty, store, ⟨fun n => "alert-" ++ toString n, 1⟩⟩
  have hplain : entry.IsPlain ∧ outage.IsPlain := by decide
  have hreachable : m.store.Reachable :=
    (Store.Reachable.empty.answer hplain.1).answer hplain.2
  have hrange : Alerting.WindowInRange m.rules now := by
    intro window hwindow
    cases hwindow
    decide
  have halerts : m.store.alerts = [cause.toRow] := by
    simp only [m, store, Store.alerts_answer]
    rfl
  have hvacant : ∀ row ∈ m.store.alerts, row.checkId = check.id → row.resolvedAt ≠ none := by
    rw [halerts]
    decide
  have hfailed : result.success = false := rfl
  have hdue : m.rules.threshold ≤ (m.streaks.fail check.id).count check.id := by decide
  have hverdict := alert_has_verdict hreachable now (fun _ => .unreachable) hrange hvacant
    hfailed hdue
  refine ⟨m, now, check, result, hreachable, hverdict.resolve_right ?_, ?_⟩
  · rintro ⟨htaken, -⟩
    rw [halerts] at htaken
    exact absurd htaken (by decide)
  · dsimp only [m, store, entry, outage, cause, result, check, now]
    cbv

end Monitor

end NetWatch
