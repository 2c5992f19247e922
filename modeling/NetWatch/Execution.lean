/-
NetWatch.Execution — what is done with the outcome of a probe
(`MonitoringExecutor`).

The result is kept, the device is noted as seen if it answered, the alerts are
brought up to date, and the measurements are told. A step that fails keeps none
of the others from being done. A check whose protocol is not served fails.
-/
import NetWatch.Alerting
import NetWatch.Probe

namespace NetWatch

/-- The outcome of a check whose protocol nobody serves. -/
def ProbeOutcome.unsupported : ProbeOutcome :=
  .down "unsupported check type"

namespace Execution

/-- The probe that serves a check, if it is among those at hand (`ProbeSet::get`). -/
def probeOf? (served : List ProbeKind) (check : Check) : Option ProbeKind :=
  match ProbeKind.named? check.checkType with
  | some kind => if served.contains kind then some kind else none
  | none => none

/-- The outcome of a check (`MonitoringExecutor::probe`): what its probe reports, if there is
one. -/
def outcomeOf (served : List ProbeKind) (report : ProbeKind → ProbeOutcome) (check : Check) :
    ProbeOutcome :=
  match probeOf? served check with
  | some kind => report kind
  | none => .unsupported

/-- Notes that the device of a check answered. -/
def noteSeen (check : Check) (result : CheckResult) : Script Unit :=
  if result.success then do
    let now ← Script.now
    let _ ← Script.query (.touchDevice check.deviceId now)
    return ()
  else return ()

/-- What follows from the outcome of a check, once the streak has counted it
(`MonitoringExecutor::execute`); gives back the alert that was raised under the name `id`. -/
def follow (rules : AlertRules) (streaks : Streaks) (check : Check) (outcome : ProbeOutcome)
    (id : String) : Script (Option Alert) := do
  let now ← Script.now
  let result := outcome.toResult check now
  let _ ← Script.query (.insertResult result)
  noteSeen check result
  let raised ← Alerting.react rules streaks check result id
  Script.announce Topic.metricsCollected (.metrics (MetricPoint.ofResult check result))
  return raised

end Execution

/-! ## The monitor -/

/-- A source of names. -/
structure Names where
  /-- The names by their numbers, which begin with one. -/
  name : Nat → String
  /-- How many have been given out. -/
  used : Nat

namespace Names

/-- The name that is given out next. -/
def next (n : Names) : String :=
  n.name (n.used + 1)

/-- The source once the next name has been given out. -/
def taken (n : Names) : Names :=
  { n with used := n.used + 1 }

end Names

/-- What the monitor keeps between the things it does (the store and the `Alerter`). -/
structure Monitor where
  rules : AlertRules
  streaks : Streaks
  store : Store
  /-- What alerts are named. -/
  names : Names

namespace Monitor

/-- What came of a step, and the monitor after it. -/
structure Step (α : Type) where
  monitor : Monitor
  trace : Trace α

/-- Runs a script on the store of the monitor. -/
def perform {α : Type} (m : Monitor) (w : World) (s : Script α) : Step α :=
  let t := s.run w m.store
  ⟨{ m with store := t.store }, t⟩

/-- Counts a success or a failure of a check, and does what follows; a name is
given out if an alert is raised. -/
def count (m : Monitor) (w : World) (check : Check) (success : Bool)
    (follow : Streaks → String → Script (Option Alert)) : Step (Option Alert) :=
  let streaks := m.streaks.record check.id success
  let t := (follow streaks m.names.next).run w m.store
  ⟨⟨m.rules, streaks, t.store, if t.result.join.isSome then m.names.taken else m.names⟩, t⟩

/-- Counts a result and brings the alerts up to date (`process_result`). -/
def process (m : Monitor) (w : World) (check : Check) (result : CheckResult) :
    Step (Option Alert) :=
  m.count w check result.success fun streaks id =>
    Alerting.react m.rules streaks check result id

/-- Counts the outcome of a check and does all that follows from it
(`MonitoringExecutor::execute`). -/
def execute (m : Monitor) (w : World) (check : Check) (outcome : ProbeOutcome) :
    Step (Option Alert) :=
  m.count w check outcome.success fun streaks id =>
    Execution.follow m.rules streaks check outcome id

/-- Processes results of a check one after the other, as long as nothing stops for good. -/
def processAll (m : Monitor) (w : World) (check : Check) : List CheckResult → Step Unit
  | [] => ⟨m, .nothing m.store⟩
  | r :: rest =>
    let first := m.process w check r
    match first.trace.result with
    | none => ⟨first.monitor, first.trace.andThen ⟨none, first.trace.store, [], []⟩⟩
    | some _ =>
      let others := first.monitor.processAll w check rest
      ⟨others.monitor, first.trace.andThen others.trace⟩

/-- One check that is due: its outcome, and the world that it meets. -/
structure Job where
  world : World
  check : Check
  outcome : ProbeOutcome

/-- Executes checks one after the other; one that stops for good keeps none of the
others from being executed. -/
def executeAll (m : Monitor) : List Job → Step Unit
  | [] => ⟨m, .nothing m.store⟩
  | j :: rest =>
    let first := m.execute j.world j.check j.outcome
    let others := first.monitor.executeAll rest
    ⟨others.monitor, first.trace.andThen others.trace⟩

/-- The monitor after a restart: what is kept in the store stays, the streaks begin anew. -/
def restarted (m : Monitor) : Monitor :=
  { m with streaks := .empty }

end Monitor

end NetWatch
