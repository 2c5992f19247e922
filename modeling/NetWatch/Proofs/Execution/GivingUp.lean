/-
NetWatch.Proofs.Execution.GivingUp — executions that are told to stop before they begin
(`MonitoringExecutor::execute`).

A probe that is told to stop gives up, and what it reports then is a failure
(`Probe.GivesUp.failed`). The execution goes on with it as with any other: the
result is kept, the streak counts it, and once the streak is long enough an
alert is raised. So nothing distinguishes a target that is out of reach from
one that nobody looked at.

`Monitor.execute_of_givesUp` says what such an execution does to the streaks, to
the alerts and to the events about them, in every state of the monitor. It is
read off the effect that the failure has (`Monitor.execute_alerts`).
`Monitor.not_harmless_of_givesUp` is the case against the belief that it does nothing to them.
-/
import NetWatch.Proofs.Execution.Steps

namespace NetWatch

open Script

/-! ## Probes that give up -/

namespace Probe

/-- What a probe reports that was told to stop before it began, and that gives up.
The `icmp` probe looks for the sign only when it is about to send. -/
inductive GivesUp (target : String) : ProbeKind → ProbeOutcome → Prop where
  | icmp (count : UInt16) (echo : Echo) : GivesUp target .icmp (Probe.icmp target count true echo)
  | tcp (ms : Float) : GivesUp target .tcp (Probe.tcp (.calledOff ms))
  | http (ms : Float) : GivesUp target .http (Probe.http (.calledOff ms))

variable {target : String} {kind : ProbeKind} {outcome : ProbeOutcome}

/-- **A probe that gives up reports a failure**, and never without an error. -/
theorem GivesUp.failed (h : GivesUp target kind outcome) :
    outcome.success = false ∧ ∃ error, outcome.error = some error ∧ error ≠ "" := by
  cases h with
  | icmp count echo =>
    cases echo with
    | unresolved reason =>
      refine ⟨rfl, "resolve " ++ target ++ ": " ++ reason, rfl, fun h => ?_⟩
      simpa using congrArg String.toList h
    | noSocket reason =>
      refine ⟨rfl, "open icmp socket: " ++ reason, rfl, fun h => ?_⟩
      simpa using congrArg String.toList h
    | replies requests => exact ⟨rfl, "100% packet loss", rfl, by decide⟩
  | tcp ms => exact ⟨rfl, calledOff, rfl, by decide⟩
  | http ms => exact ⟨rfl, calledOff, rfl, by decide⟩

end Probe

/-- The result of a failure says what its error was. -/
theorem ProbeOutcome.errorMessage_toResult {o : ProbeOutcome} (h : o.success = false)
    (check : Check) (now : Timestamp) :
    (o.toResult check now).errorMessage = some (o.error.getD "check failed") := by
  unfold toResult
  rw [h]
  rfl

/-- A new alert says what the error was, if there was one. -/
theorem Alerting.message_of_error {check : Check} {result : CheckResult} {streak : UInt32}
    {error : String} (h : result.errorMessage = some error) (hne : error ≠ "") :
    Alerting.message check result streak = error := by
  unfold Alerting.message
  rw [h]
  exact if_neg hne

/-! ## Streaks, alerts and events -/

theorem Streaks.count_fail (s : Streaks) (c d : String) :
    (s.fail c).count d = if d = c then s.count c + 1 else s.count d := by
  split
  · rename_i h
    rw [h, count_fail_self]
  · rename_i h
    exact count_fail_of_ne s h

namespace Monitor

variable {m : Monitor} {w : World} {check : Check} {outcome : ProbeOutcome}

/-- Whatever follows from it, the streak counts an outcome. -/
theorem execute_streaks (m : Monitor) (w : World) (check : Check) (outcome : ProbeOutcome) :
    (m.execute w check outcome).monitor.streaks = m.streaks.record check.id outcome.success := rfl

/-- Whether the name that the next alert would have is taken. -/
def NameTaken (m : Monitor) : Prop :=
  ∃ row ∈ m.store.alerts, row.id = m.names.next

/-- What a failure makes of the alerts and tells of them follows from its effect. -/
theorem execute_alerts_of_failed (m : Monitor) (check : Check) (hw : w.backend = .sound)
    (hfailed : outcome.success = false) :
    let streak := m.streaks.count check.id + 1
    let new := Alerting.newAlert m.rules check (outcome.toResult check w.now) streak m.names.next
      w.now
    let e := (Alerting.effect m.rules w m.store check false streak).given
      (m.store.alerts.any (·.id == m.names.next))
    (m.execute w check outcome).monitor.store.alerts = e.rowsAfter w.now new m.store.alerts ∧
      (m.execute w check outcome).trace.events.filter Event.carriesAlert = e.events w.now new := by
  have hstreak : (m.streaks.record check.id outcome.success).count check.id =
      m.streaks.count check.id + 1 := by
    rw [hfailed]
    exact m.streaks.count_fail_self check.id
  have halerts := m.execute_alerts hw check outcome
  rw [hstreak, hfailed] at halerts
  exact halerts

/-- A failure changes no alert and tells of none if it comes early, if its check has an open alert,
if the look-ups stop it, or if the name of a new alert is taken. -/
theorem execute_of_quiet (hw : w.backend = .sound) (hfailed : outcome.success = false)
    (hquiet : m.streaks.count check.id + 1 < m.rules.threshold ∨ m.store.HasOpenAlert check.id ∨
      Alerting.Stops m.rules m.store w.now check ∨ m.NameTaken) :
    (m.execute w check outcome).monitor.store.alerts = m.store.alerts ∧
      (m.execute w check outcome).trace.events.filter Event.carriesAlert = [] := by
  obtain ⟨halerts, hevents⟩ := m.execute_alerts_of_failed check hw hfailed
  rw [halerts, hevents]
  by_cases hearly : m.streaks.count check.id + 1 < m.rules.threshold ∨ m.store.HasOpenAlert check.id
  · rw [Alerting.effect_of_quiet hearly]
    exact ⟨rfl, rfl⟩
  rw [not_or, UInt32.not_lt] at hearly
  rw [Alerting.effect_of_due hearly.1 hearly.2]
  cases hwhy : ((Alerting.suppression m.rules check).run w m.store).result with
  | none => exact ⟨rfl, rfl⟩
  | some why =>
    have hgoes : ¬Alerting.Stops m.rules m.store w.now check := by
      rw [← Alerting.result_suppression_eq_none_iff hw, hwhy]
      exact nofun
    have htaken : m.NameTaken := by
      rcases hquiet with hlt | hopen | hstops | htaken
      · exact absurd hlt (UInt32.not_lt.2 hearly.1)
      · exact absurd hopen hearly.2
      · exact absurd hstops hgoes
      · exact htaken
    have hany : m.store.alerts.any (·.id == m.names.next) = true := by
      simpa [NameTaken] using htaken
    rw [hany]
    exact ⟨rfl, rfl⟩

/-- In any other case a failure raises an alert. -/
theorem execute_of_due (hw : w.backend = .sound) (hfailed : outcome.success = false)
    (hdue : m.rules.threshold ≤ m.streaks.count check.id + 1)
    (hvacant : ¬m.store.HasOpenAlert check.id)
    (hgoes : ¬Alerting.Stops m.rules m.store w.now check) (hfree : ¬m.NameTaken) :
    ∃ a why, a = Alerting.newAlert m.rules check (outcome.toResult check w.now)
        (m.streaks.count check.id + 1) m.names.next w.now why ∧
      (m.execute w check outcome).monitor.store.alerts = m.store.alerts ++ [a.toRow] ∧
      (m.execute w check outcome).trace.events.filter Event.carriesAlert = [a.opening w.now] := by
  obtain ⟨halerts, hevents⟩ := m.execute_alerts_of_failed check hw hfailed
  have hany : m.store.alerts.any (·.id == m.names.next) = false := by
    simpa [NameTaken] using hfree
  rw [halerts, hevents, hany, Alerting.effect_of_due hdue hvacant,
    Alerting.result_suppression hw hgoes]
  exact ⟨_, Alerting.reason? m.rules m.store w.now check, rfl, rfl, rfl⟩

/-- **What an execution does whose probe gives up**: all that a failure does.

The streak of the check grows by one. The alerts stay as they are, and none is
told of, as long as the streak is below the threshold or the check has an open
alert, and also where the look-ups before a new alert stop the call or its name
is taken; otherwise an alert is raised that says what the probe reported. -/
theorem execute_of_givesUp (hw : w.backend = .sound) {served : List ProbeKind} {kind : ProbeKind}
    {report : ProbeKind → ProbeOutcome} (hserved : Execution.probeOf? served check = some kind)
    (hgives : Probe.GivesUp check.target kind (report kind)) :
    let step := m.execute w check (Execution.outcomeOf served report check)
    let streak := m.streaks.count check.id + 1
    (∀ id, step.monitor.streaks.count id =
      if id = check.id then streak else m.streaks.count id) ∧
    (streak < m.rules.threshold ∨ m.store.HasOpenAlert check.id ∨
        Alerting.Stops m.rules m.store w.now check ∨ m.NameTaken →
      step.monitor.store.alerts = m.store.alerts ∧
        step.trace.events.filter Event.carriesAlert = []) ∧
    (m.rules.threshold ≤ streak → ¬m.store.HasOpenAlert check.id →
      ¬Alerting.Stops m.rules m.store w.now check → ¬m.NameTaken →
      ∃ a : Alert, a.id = m.names.next ∧ a.checkId = check.id ∧ a.consecutiveFailures = streak ∧
        a.severity = m.rules.severityAt streak ∧ (report kind).error = some a.message ∧
        step.monitor.store.alerts = m.store.alerts ++ [a.toRow] ∧
        step.trace.events.filter Event.carriesAlert = [a.opening w.now]) := by
  have houtcome : Execution.outcomeOf served report check = report kind := by
    unfold Execution.outcomeOf
    rw [hserved]
  obtain ⟨hfailed, error, herror, hne⟩ := hgives.failed
  rw [houtcome]
  intro step streak
  refine ⟨fun id => ?_, execute_of_quiet hw hfailed, fun hdue hvacant hgoes hfree => ?_⟩
  · show ((m.execute w check (report kind)).monitor.streaks).count id = _
    rw [execute_streaks, hfailed]
    exact m.streaks.count_fail check.id id
  · obtain ⟨a, why, rfl, halerts, hevents⟩ :=
      execute_of_due hw hfailed hdue hvacant hgoes hfree
    refine ⟨_, rfl, rfl, rfl, rfl, ?_, halerts, hevents⟩
    have hmessage := (report kind).errorMessage_toResult hfailed check w.now
    rw [herror] at hmessage ⊢
    exact congrArg some (Alerting.message_of_error hmessage hne).symm

/-- The second failure of a check whose threshold is two, of which its probe knows
nothing: both times it was told to stop before it began. -/
theorem execute_of_givesUp_of_second :
    ∃ (m : Monitor) (w : World) (check : Check) (report : ProbeKind → ProbeOutcome),
      w.backend = .sound ∧ Execution.probeOf? [.icmp, .tcp, .http] check = some .tcp ∧
        Probe.GivesUp check.target .tcp (report .tcp) ∧ m.rules.threshold = 2 ∧
        m.streaks.count check.id = 1 ∧
        let step := m.execute w check (Execution.outcomeOf [.icmp, .tcp, .http] report check)
        step.monitor.streaks.count check.id = 2 ∧
          ∃ a : Alert, a.checkId = check.id ∧ a.message = "cancelled" ∧
            step.monitor.store.alerts = [a.toRow] ∧
            step.trace.events.filter Event.carriesAlert = [a.opening w.now] := by
  let check : Check := .create "check-1" "device-1" "tcp" "device-1:22" .epoch
  let w : World := ⟨.epoch, .sound, fun _ => .unreachable⟩
  let m : Monitor := ⟨.create 2 none false, Streaks.empty.fail check.id, .empty,
    ⟨fun n => "alert-" ++ toString n, 0⟩⟩
  let report : ProbeKind → ProbeOutcome := fun _ => Probe.tcp (.calledOff 0)
  have hserved : Execution.probeOf? [.icmp, .tcp, .http] check = some .tcp := by decide
  have hgives : Probe.GivesUp check.target .tcp (report .tcp) := .tcp 0
  have hdue : m.rules.threshold ≤ m.streaks.count check.id + 1 := by decide
  have hvacant : ¬m.store.HasOpenAlert check.id := by
    rintro ⟨row, hrow, -⟩
    cases hrow
  have hrange : Alerting.WindowInRange m.rules w.now := by
    intro window hwindow
    cases hwindow
  have hfree : ¬m.NameTaken := by
    rintro ⟨row, hrow, -⟩
    cases hrow
  obtain ⟨hstreaks, -, hraises⟩ := execute_of_givesUp (m := m) (w := w) rfl hserved hgives
  obtain ⟨a, -, hcheck, -, -, herror, halerts, hevents⟩ :=
    hraises hdue hvacant hrange.not_stops hfree
  exact ⟨m, w, check, report, rfl, hserved, hgives, rfl, by decide, hstreaks check.id, a, hcheck,
    (Option.some.inj herror).symm, halerts, hevents⟩

/-- **Giving up is not harmless**: not every execution whose probe gives up leaves the
streak of its check and the alerts as they are and tells of no alert. -/
theorem not_harmless_of_givesUp :
    ¬ ∀ (m : Monitor) (w : World) (check : Check) (kind : ProbeKind) (outcome : ProbeOutcome),
      w.backend = .sound → Execution.probeOf? [.icmp, .tcp, .http] check = some kind →
      Probe.GivesUp check.target kind outcome →
      let step := m.execute w check outcome
      step.monitor.streaks.count check.id = m.streaks.count check.id ∧
        step.monitor.store.alerts = m.store.alerts ∧
        step.trace.events.filter Event.carriesAlert = [] := by
  intro hharmless
  let check : Check := .create "check-1" "device-1" "icmp" "device-1" .epoch
  let m : Monitor := ⟨.create 1 none false, .empty, .empty, ⟨fun n => "alert-" ++ toString n, 0⟩⟩
  let outcome := Probe.icmp check.target 3 true (.replies [.ok 1, .ok 1, .ok 1])
  have hstreak := (hharmless m ⟨.epoch, .sound, fun _ => .unreachable⟩ check .icmp outcome rfl
    (by decide) (.icmp 3 _)).1
  rw [execute_streaks] at hstreak
  have hone : (m.streaks.fail check.id).count check.id = 1 := by decide
  exact absurd (hone.symm.trans hstreak) (by decide)

end Monitor

end NetWatch
