/-
NetWatch.Proofs.Alerting.Handling — a monitor that handles one report after the other.

As long as nobody but the alerter writes alerts, their rows can be read and
have names that were given out one by one (`Monitor.Tidy`). Under that, what a
report does to the rows is one of three things: nothing, one more row, or one
row resolved (`Monitor.Handled`, `Monitor.Tidy.handled`). Whoever wants to know
what becomes of the rows over many reports looks at these three cases and never
at the script of a call.
-/
import NetWatch.Proofs.Alerting.Effect
import NetWatch.Proofs.Alerting.Spells
import NetWatch.Proofs.Keyed

namespace NetWatch

open AlertRow (isOpenFor)

namespace Report

/-- The world that the processing of a report meets; nothing is sent in it. -/
def world (r : Report) : World :=
  ⟨r.now, .sound, fun _ => .unreachable⟩

end Report

namespace Monitor

/-- The monitor after a report. -/
def after (m : Monitor) (r : Report) : Monitor :=
  (m.process r.world r.check r.result).monitor

/-- Whether a report is processed to its end, as every one is unless the look-ups before a new alert
stop it. -/
def Completes (m : Monitor) (r : Report) : Prop :=
  (m.process r.world r.check r.result).trace.result.isSome = true

/-- How often the check of a report has failed in a row, the report included. -/
def streakOf (m : Monitor) (r : Report) : UInt32 :=
  (m.streaks.record r.check.id r.result.success).count r.check.id

/-- The alert that a report raises, if it raises one. -/
def alertOf (m : Monitor) (r : Report) : Alert :=
  Alerting.newAlert m.rules r.check r.result (m.streakOf r) m.names.next r.now
    (Alerting.reason? m.rules m.store r.now r.check)

/-- The rows of alerts can be read and have names that were given out, each its own. -/
structure Tidy (m : Monitor) : Prop where
  injective : Function.Injective m.names.name
  plain : ∀ n, PlainText (m.names.name n)
  readable : ∀ row ∈ m.store.alerts, row.Readable
  named : ∀ row ∈ m.store.alerts, ∃ n ≤ m.names.used, row.id = m.names.name n
  distinct : (m.store.alerts.map (·.id)).Nodup

/-- What a report makes of the rows of alerts, and of how many names were given out. -/
inductive Handled (m : Monitor) (r : Report) : List AlertRow → Nat → Prop where
  | quiet
    (hfailed : r.failed = true → m.streakOf r < m.rules.threshold ∨
      m.store.alerts.filter (isOpenFor r.check.id) ≠ [])
    (hpassed : r.failed = false → m.store.alerts.filter (isOpenFor r.check.id) = []) :
    Handled m r m.store.alerts m.names.used
  | raised (hfailed : r.failed = true) (hdue : m.rules.threshold ≤ m.streakOf r)
    (hnone : m.store.alerts.filter (isOpenFor r.check.id) = []) :
    Handled m r (m.store.alerts ++ [(m.alertOf r).toRow]) (m.names.used + 1)
  | resolved {row : AlertRow} (hpassed : r.failed = false) (hrow : row ∈ m.store.alerts)
    (hopen : row.isOpenFor r.check.id = true) :
    Handled m r
      (Store.change (fun r' => r'.id == row.id && r'.isActive) (AlertRow.resolved r.now)
        m.store.alerts)
      m.names.used

variable {m : Monitor} {r : Report}

theorem completes_of_inRange (h : r.failed = true → Alerting.WindowInRange m.rules r.now) :
    m.Completes r := by
  rw [Completes, Option.isSome_iff_ne_none]
  intro hnone
  obtain ⟨hfailed, -, -, hstops⟩ := (result_process_eq_none_iff rfl).1 hnone
  have hr : r.failed = true := by simp [Report.failed, hfailed]
  exact (h hr).not_stops hstops

theorem after_streaks (m : Monitor) (r : Report) :
    (m.after r).streaks = m.streaks.record r.check.id r.result.success := rfl

theorem after_names_name (m : Monitor) (r : Report) :
    (m.after r).names.name = m.names.name := by
  unfold after process count
  dsimp only
  split <;> rfl

/-- The monitor after a report whose trace is known. -/
theorem after_of_run {found : Option Alert} {store : Store} {events : List Event}
    (h : (Alerting.react m.rules (m.streaks.record r.check.id r.result.success) r.check r.result
      m.names.next).run r.world m.store = ⟨some found, store, events, []⟩) :
    (m.after r).store = store ∧
      (m.after r).names.used = if found.isSome then m.names.used + 1 else m.names.used := by
  unfold after process count
  dsimp only
  rw [h]
  refine ⟨rfl, ?_⟩
  cases found <;> rfl

/-- The monitor after a failure, likewise. -/
theorem after_of_run_onFailure {found : Option Alert} {store : Store} {events : List Event}
    (hfailed : r.result.success = false)
    (h : (Alerting.onFailure m.rules r.check r.result (m.streakOf r) m.names.next).run r.world
      m.store = ⟨some found, store, events, []⟩) :
    (m.after r).store = store ∧
      (m.after r).names.used = if found.isSome then m.names.used + 1 else m.names.used := by
  rw [streakOf, ← Alerting.react_of_failed hfailed] at h
  exact after_of_run h

namespace Tidy

/-- The name that is given out next is not that of any row. -/
theorem free (h : m.Tidy) : ∀ row ∈ m.store.alerts, row.id ≠ m.names.next := by
  intro row hrow hid
  obtain ⟨n, hn, hname⟩ := h.named row hrow
  have heq := h.injective (hname.symm.trans hid)
  omega

theorem row_plain (h : m.Tidy) {row : AlertRow} (hrow : row ∈ m.store.alerts) :
    PlainText row.id := by
  obtain ⟨n, -, hname⟩ := h.named row hrow
  rw [hname]
  exact h.plain n

/-- **What a report does** is one of three things. -/
theorem handled (h : m.Tidy) (hends : m.Completes r) :
    m.Handled r (m.after r).store.alerts (m.after r).names.used := by
  obtain ⟨found, hfound⟩ := Store.exists_answer_activeAlert h.readable r.check.id
  cases hpassed : r.result.success with
  | true =>
    have hr : r.failed = false := by simp [Report.failed, hpassed]
    cases found with
    | none =>
      obtain ⟨hstore, hused⟩ := after_of_run (Alerting.run_react_of_none rfl hpassed hfound)
      rw [hstore, hused]
      exact .quiet (by simp [hr]) fun _ => Store.filter_isOpenFor_eq_nil hfound
    | some a =>
      obtain ⟨hstore, hused⟩ := after_of_run (Alerting.run_react_of_open rfl hpassed hfound)
      obtain ⟨row, hrow, hopen, hshown⟩ := Store.exists_isOpenFor_of_answer hfound
      have hid : a.id = row.id := by
        rw [← AlertRow.id_of_toAlert_eq_ok hshown, shownText_eq_self (h.row_plain hrow)]
      rw [hstore, hused, Store.alerts_answer, hid]
      exact .resolved hr hrow hopen
  | false =>
    have hr : r.failed = true := by simp [Report.failed, hpassed]
    cases found with
    | some a =>
      obtain ⟨hstore, hused⟩ :=
        after_of_run_onFailure hpassed (Alerting.run_onFailure_of_open rfl hfound)
      obtain ⟨row, hrow, hopen, -⟩ := Store.exists_isOpenFor_of_answer hfound
      rw [hstore, hused]
      refine .quiet (fun _ => .inr fun hnil => ?_) (by simp [hr])
      have hmem := List.mem_filter.2 ⟨hrow, hopen⟩
      rw [hnil] at hmem
      cases hmem
    | none =>
      by_cases hdue : m.rules.threshold ≤ m.streakOf r
      · have hopen := Store.filter_isOpenFor_eq_nil hfound
        have hgoes : ¬Alerting.Stops m.rules m.store r.now r.check := by
          intro hstops
          have hstreak : m.streakOf r = m.streaks.count r.check.id + 1 := by
            rw [streakOf, hpassed]
            exact m.streaks.count_fail_self r.check.id
          have hnone := (result_process_eq_none_iff (w := r.world) rfl).2
            ⟨hpassed, hstreak ▸ hdue, Store.filter_isOpenFor_eq_nil_iff.1 hopen, hstops⟩
          exact absurd hends (by rw [Completes, hnone]; decide)
        obtain ⟨hstore, hused⟩ := after_of_run_onFailure hpassed
          (Alerting.run_onFailure_of_vacant rfl hdue hfound
            (Alerting.result_suppression rfl hgoes) h.free)
        rw [hstore, hused]
        exact .raised hr hdue hopen
      · have hlt := UInt32.not_le.1 hdue
        obtain ⟨hstore, hused⟩ :=
          after_of_run_onFailure hpassed (Alerting.run_onFailure_of_lt hlt)
        rw [hstore, hused]
        exact .quiet (fun _ => .inl hlt) (by simp [hr])

/-- What a report leaves of the rows can be read and is named as before. -/
theorem of_handled (h : m.Tidy) {rows : List AlertRow} {used : Nat} (hr : m.Handled r rows used) :
    (∀ row ∈ rows, row.Readable) ∧ (∀ row ∈ rows, ∃ n ≤ used, row.id = m.names.name n) ∧
      (rows.map (·.id)).Nodup := by
  cases hr with
  | quiet _ _ => exact ⟨h.readable, h.named, h.distinct⟩
  | raised _ _ _ =>
    refine ⟨fun row hrow => ?_, fun row hrow => ?_, ?_⟩
    · rcases List.mem_append.1 hrow with hrow | hrow
      · exact h.readable row hrow
      · rw [List.mem_singleton.1 hrow]
        exact ⟨_, rfl⟩
    · rcases List.mem_append.1 hrow with hrow | hrow
      · obtain ⟨n, hn, hname⟩ := h.named row hrow
        exact ⟨n, Nat.le_succ_of_le hn, hname⟩
      · rw [List.mem_singleton.1 hrow]
        exact ⟨m.names.used + 1, Nat.le_refl _, rfl⟩
    · exact nodup_map_concat h.distinct h.free
  | resolved _ _ _ =>
    refine ⟨fun row hrow => ?_, fun row hrow => ?_, ?_⟩
    · obtain ⟨row, hmem, rfl⟩ := List.mem_map.1 hrow
      split <;> exact h.readable row hmem
    · obtain ⟨row, hmem, rfl⟩ := List.mem_map.1 hrow
      split <;> exact h.named row hmem
    · exact Store.nodup_map_change (fun _ _ => rfl) h.distinct

/-- A report leaves things tidy. -/
theorem after (h : m.Tidy) (hends : m.Completes r) : (m.after r).Tidy := by
  obtain ⟨hreadable, hnamed, hdistinct⟩ := h.of_handled (h.handled hends)
  rw [← after_names_name m r] at hnamed
  exact ⟨by rw [after_names_name]; exact h.injective, by rw [after_names_name]; exact h.plain,
    hreadable, hnamed, hdistinct⟩

end Tidy

end Monitor

end NetWatch
