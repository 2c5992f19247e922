/-
NetWatch.Proofs.Alerting.Account — the alerts of a check, held against its history.

What alerts a check should have is said by its history alone: one for each
spell of failures that is long enough, raised at the failure that made it so
and resolved by the success that ended the spell (`Spell.IsAlertedBy`).

The account of a check splits its history at the last success: the alerts of
what was before are settled, and the failures since then have one alert at the
most, which is open. One more failure or success moves the account on, and at
any time it says that the rows are those that the spells ask for
(`Account.alerts`).
-/
import NetWatch.Alerting
import NetWatch.Proofs.Alerting.Spells
import NetWatch.Proofs.Store.AlertTable
import Mathlib.Data.List.Forall2

namespace NetWatch

/-! ## Alerts of spells -/

/-- Whether a spell is long enough for an alert. -/
def Spell.isLong (threshold : UInt32) (sp : Spell) : Bool :=
  threshold.toNat ≤ sp.failures.length

/-- A row is the alert of a spell: it was raised at the failure that reached the
threshold, and it is resolved as soon as the spell has ended. -/
structure Spell.IsAlertedBy (threshold : UInt32) (sp : Spell) (row : AlertRow) : Prop where
  raised : ∃ f, sp.failures[threshold.toNat - 1]? = some f ∧ row.checkId = f.check.id ∧
    row.deviceId = f.check.deviceId ∧
    row.message = Alerting.message f.check f.result threshold ∧
    row.triggeredAt = f.now.toMillis
  consecutiveFailures : row.consecutiveFailures = threshold
  severity : row.severity = (if threshold = 4294967295 then Severity.critical else .warning).name
  resolvedAt : row.resolvedAt = sp.ending.map fun r => r.now.toMillis

namespace Spell.IsAlertedBy

variable {threshold : UInt32} {run : List Report} {row : AlertRow}

theorem isActive (h : Spell.IsAlertedBy threshold ⟨run, none⟩ row) : row.isActive = true := by
  unfold AlertRow.isActive
  rw [h.resolvedAt]
  rfl

/-- A spell that grows keeps its alert. -/
theorem grow (h : Spell.IsAlertedBy threshold ⟨run, none⟩ row) (f : Report) :
    Spell.IsAlertedBy threshold ⟨run ++ [f], none⟩ row where
  raised := by
    obtain ⟨f', hf', hrow⟩ := h.raised
    have hlt : threshold.toNat - 1 < run.length := (List.getElem?_eq_some_iff.1 hf').1
    refine ⟨f', ?_, hrow⟩
    rw [List.getElem?_append_left hlt]
    exact hf'
  consecutiveFailures := h.consecutiveFailures
  severity := h.severity
  resolvedAt := h.resolvedAt

/-- The alert of a spell that ends is resolved by what ends it. -/
theorem finish (h : Spell.IsAlertedBy threshold ⟨run, none⟩ row) (r : Report) :
    Spell.IsAlertedBy threshold ⟨run, some r⟩ (row.resolved r.now) where
  raised := h.raised
  consecutiveFailures := h.consecutiveFailures
  severity := h.severity
  resolvedAt := rfl

end Spell.IsAlertedBy

/-! ## The account of a check -/

/-- The spells of a history that are long enough for an alert. -/
def longSpells (threshold : UInt32) (reports : List Report) : List Spell :=
  (spells reports).filter (Spell.isLong threshold)

/-- The rows of a check, held against its history: the rows of the spells that
have ended, and that of the failures since then. -/
structure Account (threshold : UInt32) (past run : List Report)
    (settled current : List AlertRow) : Prop where
  past_endsWell : EndsWell past
  run_failed : ∀ r ∈ run, r.failed = true
  settled_alerts : List.Forall₂ (Spell.IsAlertedBy threshold) (longSpells threshold past) settled
  settled_inactive : ∀ row ∈ settled, row.isActive = false
  current_alert : (run.length < threshold.toNat ∧ current = []) ∨
    (threshold.toNat ≤ run.length ∧
      ∃ row, current = [row] ∧ Spell.IsAlertedBy threshold ⟨run, none⟩ row)

namespace Account

variable {threshold : UInt32} {past run : List Report} {settled current : List AlertRow}
  {r : Report}

/-- Before anything happened there are no rows. -/
theorem nil (hpos : 1 ≤ threshold) : Account threshold [] [] [] [] where
  past_endsWell := endsWell_nil
  run_failed := by simp
  settled_alerts := by simp [longSpells, spells]
  settled_inactive := by simp
  current_alert := .inl ⟨UInt32.le_iff_toNat_le.1 hpos, rfl⟩

/-- One more failure; what it makes of the alert of the spell is to be shown. -/
theorem fail (h : Account threshold past run settled current) (hr : r.failed = true)
    {current' : List AlertRow}
    (hcurrent : (run.length + 1 < threshold.toNat ∧ current' = []) ∨
      (threshold.toNat ≤ run.length + 1 ∧
        ∃ row, current' = [row] ∧ Spell.IsAlertedBy threshold ⟨run ++ [r], none⟩ row)) :
    Account threshold past (run ++ [r]) settled current' where
  past_endsWell := h.past_endsWell
  run_failed := failed_snoc h.run_failed hr
  settled_alerts := h.settled_alerts
  settled_inactive := h.settled_inactive
  current_alert := by
    rw [List.length_append]
    exact hcurrent

/-- The spells of a history that a success is added to. -/
theorem longSpells_pass (h : Account threshold past run settled current)
    (hr : r.failed = false) (hne : run ≠ []) :
    longSpells threshold (past ++ run ++ [r]) =
      longSpells threshold past ++ [⟨run, some r⟩].filter (Spell.isLong threshold) := by
  unfold longSpells
  rw [List.append_assoc, spells_append h.past_endsWell,
    spells_of_failures_snoc h.run_failed hne hr, List.filter_append]

/-- A success that ends no spell, or one too short for an alert. -/
theorem pass_short (h : Account threshold past run settled current) (hr : r.failed = false)
    (hlt : run.length < threshold.toNat) :
    Account threshold (past ++ run ++ [r]) [] settled [] where
  past_endsWell := endsWell_snoc hr _
  run_failed := by simp
  settled_alerts := by
    by_cases hne : run = []
    · have hspells : spells [r] = [] := by simp [spells, hr]
      unfold longSpells
      rw [hne, List.append_nil, spells_append h.past_endsWell, hspells, List.append_nil]
      exact h.settled_alerts
    · have hshort : Spell.isLong threshold ⟨run, some r⟩ = false := by
        simpa [Spell.isLong] using hlt
      rw [h.longSpells_pass hr hne, List.filter_singleton, hshort]
      simpa using h.settled_alerts
  settled_inactive := h.settled_inactive
  current_alert := .inl ⟨by simp; omega, rfl⟩

/-- A success that ends a spell with an alert. -/
theorem pass_long {row : AlertRow} (h : Account threshold past run settled [row])
    (hr : r.failed = false) (hpos : 1 ≤ threshold) :
    Account threshold (past ++ run ++ [r]) [] (settled ++ [row.resolved r.now]) [] := by
  have hone : 1 ≤ threshold.toNat := UInt32.le_iff_toNat_le.1 hpos
  obtain ⟨-, hnil⟩ | ⟨hle, row', hrow', halerted⟩ := h.current_alert
  · cases hnil
  cases hrow'
  have hne : run ≠ [] := by
    rintro rfl
    simp at hle
    omega
  have hlong : Spell.isLong threshold ⟨run, some r⟩ = true := by simpa [Spell.isLong] using hle
  refine ⟨endsWell_snoc hr _, by simp, ?_, ?_, .inl ⟨hone, rfl⟩⟩
  · rw [h.longSpells_pass hr hne, List.filter_singleton, hlong]
    exact List.rel_append h.settled_alerts (.cons (halerted.finish r) .nil)
  · intro row' hrow'
    rcases List.mem_append.1 hrow' with hrow' | hrow'
    · exact h.settled_inactive row' hrow'
    · rw [List.mem_singleton.1 hrow']
      rfl

/-- **The rows of a check are one for each of its long spells.** -/
theorem alerts (h : Account threshold past run settled current) (hpos : 1 ≤ threshold) :
    List.Forall₂ (Spell.IsAlertedBy threshold) (longSpells threshold (past ++ run))
      (settled ++ current) := by
  have hone : 1 ≤ threshold.toNat := UInt32.le_iff_toNat_le.1 hpos
  unfold longSpells
  rw [spells_append h.past_endsWell, List.filter_append]
  refine List.rel_append h.settled_alerts ?_
  obtain ⟨hlt, rfl⟩ | ⟨hle, row, rfl, halerted⟩ := h.current_alert
  · by_cases hne : run = []
    · simp [hne, spells]
    · have hshort : Spell.isLong threshold ⟨run, none⟩ = false := by
        simpa [Spell.isLong] using hlt
      rw [spells_of_failures h.run_failed hne, List.filter_singleton, hshort]
      exact .nil
  · have hne : run ≠ [] := by
      rintro rfl
      simp at hle
      omega
    have hlong : Spell.isLong threshold ⟨run, none⟩ = true := by simpa [Spell.isLong] using hle
    rw [spells_of_failures h.run_failed hne, List.filter_singleton, hlong]
    exact .cons halerted .nil

/-- The open rows of a check are the alert of its failures since the last success. -/
theorem filter_isActive (h : Account threshold past run settled current) :
    (settled ++ current).filter AlertRow.isActive = current := by
  have hsettled : settled.filter AlertRow.isActive = [] :=
    List.filter_eq_nil_iff.2 fun row hrow => by simp [h.settled_inactive row hrow]
  rw [List.filter_append, hsettled, List.nil_append]
  obtain ⟨-, rfl⟩ | ⟨-, row, rfl, halerted⟩ := h.current_alert
  · rfl
  · simp [halerted.isActive]

/-- Without an alert the failures since the last success are too few for one. -/
theorem length_lt (h : Account threshold past run settled []) :
    run.length < threshold.toNat := by
  rcases h.current_alert with ⟨hlt, -⟩ | ⟨-, row, hnil, -⟩
  · exact hlt
  · cases hnil

/-- Resolving the open row of a check leaves its other rows alone. -/
theorem change_resolved {row : AlertRow} (h : Account threshold past run settled [row])
    (time : Timestamp) :
    Store.change (fun r' => r'.id == row.id && r'.isActive) (AlertRow.resolved time)
        (settled ++ [row]) = settled ++ [row.resolved time] := by
  have hsettled : Store.change (fun r' => r'.id == row.id && r'.isActive)
      (AlertRow.resolved time) settled = settled :=
    Store.change_eq_self (fun r' hr' => by simp [h.settled_inactive r' hr']) _
  have hactive : row.isActive = true := by
    rcases h.current_alert with ⟨-, hnil⟩ | ⟨-, row', hrow', halerted⟩
    · cases hnil
    · cases hrow'
      exact halerted.isActive
  unfold Store.change at hsettled ⊢
  rw [List.map_append, hsettled]
  simp [hactive]

end Account

end NetWatch
