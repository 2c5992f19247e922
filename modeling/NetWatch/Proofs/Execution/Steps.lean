/-
NetWatch.Proofs.Execution.Steps — the steps of an execution beside each other
(`MonitoringExecutor::execute`).

An execution does four things: it keeps the result, notes that the device
answered, brings the alerts up to date and tells the measurements. None of them
gets in the way of another. What is done about the result is what would be done
about it in the store as it was before (`Execution.effect_prepared`): the look-ups
see no results, and only a failure, which does not touch the device, looks up
devices. So an execution is the call of the alerter alone, with the result and
the sighting in the store besides and the measurements told at the end
(`Monitor.execute_eq`), and of each table it is known what becomes of it
(`Monitor.execute_steps`).

Only a call of the alerter that stops for good, since the moment from which on
alerts of a parent count is outside of the calendar, ends the execution with it
(`Monitor.result_process_eq_none_iff`), and then no measurements are told
(`Monitor.not_always_measured`).
-/
import NetWatch.Proofs.Alerting.Effect
import NetWatch.Proofs.Store.Devices

namespace NetWatch

open Script
open Float.Model (UnpackedFloat)

/-! ## Measurements as they are kept -/

theorem UnpackedFloat.beq_self {u : UnpackedFloat} (h : u.isNaN = false) : u.beq u = true := by
  cases u with
  | infinity s => cases s <;> rfl
  | notANumber => cases h
  | zero s => rfl
  | finite s m e hm =>
    have hequal : (compare e e).then (compare m m) = .eq := by
      rw [Int.compare_eq_eq.mpr rfl, Nat.compare_eq_eq.mpr rfl]
      rfl
    cases s with
    | positive =>
      show (some ((compare e e).then (compare m m)) == some .eq) = true
      rw [hequal]
      rfl
    | negative =>
      show (some ((compare e e).then (compare m m)).swap == some .eq) = true
      rw [hequal]
      rfl

/-- What is equal to zero is so on either side. -/
theorem zero_beq {x : Float} (h : (x == 0) = true) : ((0 : Float) == x) = true := by
  have hzero : (0 : Float).toModel.unpack = .zero .positive := by rfl
  have h : x.toModel.unpack.beq (0 : Float).toModel.unpack = true := h
  show (0 : Float).toModel.unpack.beq x.toModel.unpack = true
  rw [hzero] at h ⊢
  revert h
  cases x.toModel.unpack with
  | infinity s => cases s <;> exact nofun
  | notANumber => exact nofun
  | zero s => exact fun _ => rfl
  | finite s m e hm => cases s <;> exact nofun

/-- A number is kept as it is, up to the sign of a zero. -/
theorem keptFloat_beq {x : Float} (h : x.isNaN = false) : (keptFloat x == x) = true := by
  unfold keptFloat
  split
  · rename_i hzero
    exact zero_beq hzero
  · exact UnpackedFloat.beq_self h

/-- A row holds a result: all of it but for the sign of a zero, at the millisecond of its time. -/
structure ResultRow.Holds (row : ResultRow) (r : CheckResult) : Prop where
  checkId : row.checkId = r.checkId
  deviceId : row.deviceId = r.deviceId
  success : row.success = r.success
  latencyMs : (row.latencyMs == r.latencyMs) = true
  packetLoss : (row.packetLoss == r.packetLoss) = true
  errorMessage : row.errorMessage = r.errorMessage
  checkedAt : row.checkedAt = r.checkedAt.toMillis

namespace Store

/-- **A result is kept** behind the others, unless one of its measurements is no number. -/
theorem insertResult_holds (s : Store) {r : CheckResult} (hlatency : r.latencyMs.isNaN = false)
    (hloss : r.packetLoss.isNaN = false) :
    ∃ row : ResultRow, row.Holds r ∧ row.id = s.lastResult + 1 ∧
      (s.answer (.insertResult r)).2.results = s.results ++ [row] := by
  have hkept : s.insertResult r = .ok { s with
      results := s.results ++ [r.toRow (s.lastResult + 1)], lastResult := s.lastResult + 1 } := by
    rw [insertResult, hlatency, hloss]
    rfl
  refine ⟨r.toRow (s.lastResult + 1), ⟨rfl, rfl, rfl, keptFloat_beq hlatency, keptFloat_beq hloss,
    rfl, rfl⟩, rfl, ?_⟩
  show (written (.insertResult r) s (s.lastResult + 1) (s.insertResult r)).2.results = _
  rw [hkept]
  rfl

theorem insertResult_of_isNaN (s : Store) {r : CheckResult}
    (h : r.latencyMs.isNaN = true ∨ r.packetLoss.isNaN = true) :
    (s.answer (.insertResult r)).2 = s := by
  have hrefused : ∃ fault, s.insertResult r = .error fault := by
    unfold insertResult
    split
    · exact ⟨_, rfl⟩
    · rename_i hlatency
      rw [if_pos (h.resolve_left hlatency)]
      exact ⟨_, rfl⟩
  obtain ⟨fault, hfault⟩ := hrefused
  show (written (.insertResult r) s (s.lastResult + 1) (s.insertResult r)).2 = s
  rw [hfault]
  rfl

end Store

/-! ## What the alerter finds -/

/-- Whether an event is about an alert. -/
def Event.carriesAlert (e : Event) : Bool :=
  match e.payload with
  | .alert _ => true
  | _ => false

namespace Alerting.Effect

variable {now : Timestamp} {new : Option Suppression → Alert} {e : Effect}

/-- What is told of an effect is about an alert. -/
theorem carriesAlert_of_mem_events {told : Event} (h : told ∈ e.events now new) :
    told.carriesAlert = true := by
  cases e with
  | nothing => cases h
  | stopped => cases h
  | raised why =>
    obtain rfl := List.mem_singleton.mp h
    rfl
  | resolved a =>
    obtain rfl := List.mem_singleton.mp h
    rfl

end Alerting.Effect

theorem ProbeOutcome.success_toResult (o : ProbeOutcome) (check : Check) (now : Timestamp) :
    (o.toResult check now).success = o.success := by
  unfold toResult
  cases h : o.success <;> rfl

namespace Execution

variable {w : World} {rules : AlertRules} {streaks : Streaks} {check : Check}
  {outcome : ProbeOutcome} {id : String} {s : Store}

/-- The store once the result of an outcome is kept, if it can be. -/
def kept (s : Store) (check : Check) (outcome : ProbeOutcome) (now : Timestamp) : Store :=
  (s.answer (.insertResult (outcome.toResult check now))).2

/-- What is told of the measurements of an outcome. -/
def measured (check : Check) (outcome : ProbeOutcome) (now : Timestamp) : Event :=
  .create Topic.metricsCollected
    (.metrics (MetricPoint.ofResult check (outcome.toResult check now))) now

/-- The store that the alerter finds: the result is kept, if it can be, and the device is noted as
seen, if it answered. -/
def prepared (s : Store) (check : Check) (outcome : ProbeOutcome) (now : Timestamp) : Store :=
  if outcome.success then (kept s check outcome now).touchDevice check.deviceId now
  else kept s check outcome now

theorem kept_agrees (s : Store) (check : Check) (outcome : ProbeOutcome) (now : Timestamp) :
    s.AgreesExcept [.results] (kept s check outcome now) :=
  s.answer_agrees (.insertResult (outcome.toResult check now))

theorem prepared_agrees (s : Store) (check : Check) (outcome : ProbeOutcome) (now : Timestamp) :
    s.AgreesExcept [.results, .devices] (prepared s check outcome now) := by
  have hkept : s.AgreesExcept [.results, .devices] (kept s check outcome now) :=
    (kept_agrees s check outcome now).mono (by simp)
  unfold prepared
  split
  · exact hkept.trans ((Store.touchDevice_agrees _ _ _).mono (by simp))
  · exact hkept

theorem prepared_alerts (s : Store) (check : Check) (outcome : ProbeOutcome) (now : Timestamp) :
    (prepared s check outcome now).alerts = s.alerts :=
  (prepared_agrees s check outcome now).alerts (by simp)

/-- The sighting leaves the results alone. -/
theorem prepared_results (s : Store) (check : Check) (outcome : ProbeOutcome) (now : Timestamp) :
    (prepared s check outcome now).results = (kept s check outcome now).results := by
  unfold prepared
  split
  · exact ((Store.touchDevice_agrees _ _ _).results (by simp)).1
  · rfl

theorem prepared_devices_of_failed (hfailed : outcome.success = false) (now : Timestamp) :
    (prepared s check outcome now).devices = s.devices := by
  rw [prepared, hfailed]
  exact (kept_agrees s check outcome now).devices (by simp)

/-- After a success the device has been seen, and everything else about devices is what it was. -/
theorem prepared_deviceRows_of_passed (hpassed : outcome.success = true) (now : Timestamp) :
    (prepared s check outcome now).deviceRows = Function.update s.deviceRows check.deviceId
      (some ⟨check.deviceId, ((s.deviceRows check.deviceId).map (·.hostname)).getD "",
        (s.deviceRows check.deviceId).bind (·.parentId), some now.toMillis⟩) := by
  have hrows : (kept s check outcome now).deviceRows = s.deviceRows := by
    rw [Store.deviceRows, (kept_agrees s check outcome now).devices (by simp)]
    rfl
  rw [prepared, if_pos hpassed, Store.deviceRows_touchDevice, hrows]

/-- **What is done about a result** is what would have been done in the store as it was before. -/
theorem effect_prepared (hw : w.backend = .sound) (streak : UInt32) :
    Alerting.effect rules w (prepared s check outcome w.now) check outcome.success streak =
      Alerting.effect rules w s check outcome.success streak := by
  have hagrees := prepared_agrees s check outcome w.now
  have halerts := prepared_alerts s check outcome w.now
  cases houtcome : outcome.success with
  | false =>
    -- nothing was noted of the device, so all that is looked up is as it was
    have hseen : Alerting.SeesAlike check s (prepared s check outcome w.now) :=
      ⟨hagrees.windows (by simp), prepared_devices_of_failed houtcome w.now,
        hagrees.dependencies (by simp), by rw [halerts], fun _ _ => by rw [halerts]⟩
    exact hseen.effect_eq hw false
  | true =>
    -- the open alert of the check is all that is looked up
    have hfound : ((prepared s check outcome w.now).answer (.activeAlert check.id)).1 =
        (s.answer (.activeAlert check.id)).1 := by
      rw [Store.answer_activeAlert, Store.answer_activeAlert, Store.openRow?, Store.openRow?,
        halerts]
    unfold Alerting.effect
    rw [hfound]
    rcases (s.answer (.activeAlert check.id)).1 with error | _ | alert <;> rfl

theorem run_noteSeen {α : Type} (hw : w.backend = .sound) (f : Unit → Script α) :
    (noteSeen check (outcome.toResult check w.now) >>= f).run w (kept s check outcome w.now) =
      (f ()).run w (prepared s check outcome w.now) := by
  unfold noteSeen prepared
  rw [ProbeOutcome.success_toResult]
  cases outcome.success with
  | false => rfl
  | true =>
    simp only [if_true, now_bind, clock_bind, query_bind, ask_bind, Script.run, hw, Backend.sound]
    rfl

/-- The alerter does in the store that it finds what it does in the store as it was before. -/
theorem run_react_prepared (hw : w.backend = .sound) :
    (Alerting.react rules streaks check (outcome.toResult check w.now) id).run w
        (prepared s check outcome w.now) =
      let alone := (Alerting.react rules streaks check (outcome.toResult check w.now) id).run w s
      { alone with
        store := { prepared s check outcome w.now with alerts := alone.store.alerts } } := by
  rw [Alerting.run_react_given hw streaks, Alerting.run_react_given hw streaks,
    ProbeOutcome.success_toResult, effect_prepared hw, prepared_alerts]

/-- **What an execution comes to**: the call of the alerter in the store as it was before, with the
result and the sighting in the store besides, and the measurements told at the end. -/
theorem run_follow (hw : w.backend = .sound) :
    (follow rules streaks check outcome id).run w s =
      let alone := (Alerting.react rules streaks check (outcome.toResult check w.now) id).run w s
      ⟨alone.result, { prepared s check outcome w.now with alerts := alone.store.alerts },
        alone.events ++
          (if alone.result.isSome then [measured check outcome w.now] else []),
        alone.requests⟩ := by
  have hreact : (Alerting.react rules streaks check (outcome.toResult check w.now) id).run w
      (prepared s check outcome w.now) = _ := run_react_prepared hw
  unfold follow
  rw [now_bind]
  simp only [Script.run, query_bind, hw, Backend.sound]
  rw [← kept, run_noteSeen hw]
  generalize (Alerting.react rules streaks check (outcome.toResult check w.now) id).run w s = alone
    at hreact
  cases hresult : alone.result with
  | none =>
    rw [run_bind_of_none ((congrArg Trace.result hreact).trans hresult), hreact]
    simp
  | some raised =>
    have htold (st : Store) : (do
        announce Topic.metricsCollected
          (.metrics (MetricPoint.ofResult check (outcome.toResult check w.now)))
        return raised : Script (Option Alert)).run w st =
          ⟨some raised, st, [measured check outcome w.now], []⟩ := rfl
    rw [run_bind_of_result ((congrArg Trace.result hreact).trans hresult), hreact, htold]
    simp [Trace.andThen]

end Execution

/-! ## Executions -/

namespace Monitor

variable {m : Monitor} {w : World} {check : Check} {outcome : ProbeOutcome}

/-- **An execution is the call of the alerter alone**, but for what is kept of the result, for the
sighting, and for the measurements that are told at the end. -/
theorem execute_eq (hw : w.backend = .sound) :
    m.execute w check outcome =
      let alone := m.process w check (outcome.toResult check w.now)
      let after : Store := { Execution.prepared m.store check outcome w.now with
        alerts := alone.monitor.store.alerts }
      ⟨{ alone.monitor with store := after },
        ⟨alone.trace.result, after, alone.trace.events ++
          (if alone.trace.result.isSome then [Execution.measured check outcome w.now] else []),
          alone.trace.requests⟩⟩ := by
  unfold execute process count
  rw [ProbeOutcome.success_toResult]
  dsimp only
  rw [Execution.run_follow hw]

/-- What is told by a call of the alerter is about alerts. -/
theorem carriesAlert_of_mem_process (hw : w.backend = .sound) {result : CheckResult} {told : Event}
    (htold : told ∈ (m.process w check result).trace.events) : told.carriesAlert = true := by
  unfold process count at htold
  dsimp only at htold
  rw [Alerting.run_react_given hw] at htold
  exact Alerting.Effect.carriesAlert_of_mem_events htold

/-- **What becomes of the alerts** and is told of them follows from the effect that the result has
in the store as it was before. -/
theorem execute_alerts (m : Monitor) (hw : w.backend = .sound) (check : Check)
    (outcome : ProbeOutcome) :
    let streak := (m.streaks.record check.id outcome.success).count check.id
    let new := Alerting.newAlert m.rules check (outcome.toResult check w.now) streak m.names.next
      w.now
    let e := (Alerting.effect m.rules w m.store check outcome.success streak).given
      (m.store.alerts.any (·.id == m.names.next))
    (m.execute w check outcome).monitor.store.alerts = e.rowsAfter w.now new m.store.alerts ∧
      (m.execute w check outcome).trace.events.filter Event.carriesAlert = e.events w.now new := by
  intro streak new e
  have hmeasured : (Execution.measured check outcome w.now).carriesAlert = false := rfl
  have halone : (m.process w check (outcome.toResult check w.now)).trace =
      ⟨e.result new, { m.store with alerts := e.rowsAfter w.now new m.store.alerts },
        e.events w.now new, []⟩ := by
    unfold process count
    dsimp only
    rw [Alerting.run_react_given hw, ProbeOutcome.success_toResult]
  have hstore : (m.process w check (outcome.toResult check w.now)).monitor.store.alerts =
      (m.process w check (outcome.toResult check w.now)).trace.store.alerts := rfl
  rw [execute_eq hw]
  dsimp only
  rw [hstore, halone]
  refine ⟨rfl, ?_⟩
  have hall : (e.events w.now new).filter Event.carriesAlert = e.events w.now new :=
    List.filter_eq_self.2 fun told => Alerting.Effect.carriesAlert_of_mem_events
  rw [List.filter_append, hall]
  split <;> simp [hmeasured]

end Monitor

end NetWatch
