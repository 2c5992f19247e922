/-
NetWatch.Proofs.Alerting.OneAlertPerSpell — one alert for every outage (`process_result`).

Where only the alerter writes alerts, those of a check are exactly one for each
of its spells of failures that is long enough, in order: raised at the failure
that made it so, resolved by the success that ended the spell, and open as long
as the spell goes on (`Monitor.one_alert_per_spell`). The streak of a check is
how many failures there were since its last success.

The spells are cut out of the whole history, whereas the monitor remembers a
number and the rows; the account of the check ties the two together. A result
of the check moves its account on (`Monitor.Handled.same`), and a result of
another check leaves it alone (`Monitor.Handled.other`).
-/
import NetWatch.Proofs.Alerting.Account
import NetWatch.Proofs.Alerting.Handling
import Mathlib

namespace NetWatch

open AlertRow (isOpenFor)

/-! ## One report -/

/-- An alert that is raised as soon as the threshold is reached is a warning,
unless the threshold is so high that twice as much cannot be counted. -/
theorem AlertRules.severityAt_threshold (rules : AlertRules) :
    rules.severityAt rules.threshold =
      if rules.threshold = 4294967295 then .critical else .warning := by
  have hpos : 1 ≤ rules.threshold.toNat := UInt32.le_iff_toNat_le.1 rules.threshold_pos
  have hlt : rules.threshold.toNat < 4294967296 := rules.threshold.toNat_lt
  unfold severityAt criticalAt
  split
  · rename_i hdouble
    have hne : rules.threshold ≠ 4294967295 := by
      intro heq
      rw [heq] at hdouble
      exact absurd hdouble (by decide)
    have hnot : ¬rules.threshold * 2 ≤ rules.threshold := by
      rw [UInt32.le_iff_toNat_le, UInt32.toNat_mul, Nat.mod_eq_of_lt (by simpa using hdouble)]
      simp
      omega
    rw [if_neg hnot, if_neg hne]
  · have hiff : (4294967295 : UInt32) ≤ rules.threshold ↔ rules.threshold = 4294967295 := by
      rw [UInt32.le_iff_toNat_le, ← UInt32.toNat_inj]
      show 4294967295 ≤ rules.threshold.toNat ↔ rules.threshold.toNat = 4294967295
      omega
    simp only [hiff]

namespace Monitor

variable {m : Monitor} {r : Report}

/-- A success ends the streak of its check. -/
theorem streakOf_of_passed (hr : r.failed = false) : m.streakOf r = 0 := by
  have hpassed : r.result.success = true := by simpa [Report.failed] using hr
  unfold streakOf Streaks.record
  rw [if_pos hpassed, Streaks.count_clear_self]

/-- A failure is counted, as long as the number is a word. -/
theorem toNat_streakOf_of_failed (hr : r.failed = true)
    (hlt : (m.streaks.count r.check.id).toNat + 1 < 4294967296) :
    (m.streakOf r).toNat = (m.streaks.count r.check.id).toNat + 1 := by
  have hfailed : r.result.success = false := by simpa [Report.failed] using hr
  unfold streakOf Streaks.record
  rw [hfailed, if_neg Bool.false_ne_true, Streaks.count_fail_self, UInt32.toNat_add]
  exact Nat.mod_eq_of_lt hlt

/-- A report leaves the rows of other checks alone. -/
theorem Handled.other {rows : List AlertRow} {used : Nat} (h : m.Handled r rows used)
    (hm : m.Tidy) {checkId : String} (hne : r.check.id ≠ checkId) :
    rows.filter (·.checkId == checkId) = m.store.alerts.filter (·.checkId == checkId) := by
  cases h with
  | quiet _ _ => rfl
  | raised _ _ _ =>
    have hother : ((m.alertOf r).toRow.checkId == checkId) = false := beq_eq_false_iff_ne.2 hne
    rw [List.filter_append, List.filter_singleton, hother]
    simp
  | @resolved row _ hrow hopen =>
    rw [Store.filter_change (f := AlertRow.resolved r.now) fun _ => rfl]
    refine Store.change_eq_self (fun row' hrow' => ?_) _
    obtain ⟨hmem, hcheck⟩ := List.mem_filter.1 hrow'
    cases hid : row'.id == row.id with
    | false => rfl
    | true =>
      -- Two rows of one name are one row, which is of another check.
      have heq := List.inj_on_of_nodup_map hm.distinct hmem hrow (beq_iff_eq.1 hid)
      have hcheck' := (Bool.and_eq_true_iff.1 hopen).1
      rw [heq] at hcheck
      exact absurd ((beq_iff_eq.1 hcheck').symm.trans (beq_iff_eq.1 hcheck)) hne

/-- The row that a failure raises is the alert of the spell that it made long enough. -/
theorem isAlertedBy_alertOf {run : List Report}
    (hstreak : m.streakOf r = m.rules.threshold)
    (hlength : run.length + 1 = m.rules.threshold.toNat) :
    Spell.IsAlertedBy m.rules.threshold ⟨run ++ [r], none⟩ (m.alertOf r).toRow where
  raised := by
    refine ⟨r, ?_, rfl, rfl, ?_, rfl⟩
    · rw [← hlength, Nat.add_sub_cancel]
      exact List.getElem?_concat_length
    · rw [← hstreak]
      rfl
  consecutiveFailures := hstreak
  severity := by
    rw [← m.rules.severityAt_threshold, ← hstreak]
    rfl
  resolvedAt := rfl

/-- The rows and the streak of a check are as its history says. -/
def AccountsFor (m : Monitor) (checkId : String) (reports : List Report) : Prop :=
  ∃ past run settled current, reports = past ++ run ∧
    Account m.rules.threshold past run settled current ∧
    m.store.alerts.filter (·.checkId == checkId) = settled ++ current ∧
    (m.streaks.count checkId).toNat = run.length

/-- **A report of the check moves its account on.** -/
theorem Handled.same {rows : List AlertRow} {used : Nat} (h : m.Handled r rows used)
    {past run : List Report} {settled current : List AlertRow}
    (hacc : Account m.rules.threshold past run settled current)
    (hrows : m.store.alerts.filter (·.checkId == r.check.id) = settled ++ current)
    (hstreak : (m.streaks.count r.check.id).toNat = run.length)
    (hshort : r.failed = true → run.length + 1 < 4294967296) :
    ∃ past' run' settled' current', past ++ run ++ [r] = past' ++ run' ∧
      Account m.rules.threshold past' run' settled' current' ∧
      rows.filter (·.checkId == r.check.id) = settled' ++ current' ∧
      (m.streakOf r).toNat = run'.length := by
  have hopen : m.store.alerts.filter (isOpenFor r.check.id) = current := by
    rw [AlertRow.filter_isOpenFor, hrows, hacc.filter_isActive]
  have hcount : r.failed = true → (m.streakOf r).toNat = (run ++ [r]).length := by
    intro hr
    rw [toNat_streakOf_of_failed hr (hstreak.symm ▸ hshort hr), hstreak, List.length_append]
    rfl
  cases h with
  | quiet hfailed hpassed =>
    cases hr : r.failed with
    | true =>
      refine ⟨past, run ++ [r], settled, current, List.append_assoc .., hacc.fail hr ?_, hrows,
        hcount hr⟩
      rcases hacc.current_alert with ⟨hlt, rfl⟩ | ⟨hle, row, rfl, halerted⟩
      · refine .inl ⟨?_, rfl⟩
        rcases hfailed hr with hstreak' | hne
        · rw [UInt32.lt_iff_toNat_lt, hcount hr, List.length_append] at hstreak'
          exact hstreak'
        · exact absurd hopen hne
      · exact .inr ⟨Nat.le_succ_of_le hle, row, rfl, halerted.grow r⟩
    | false =>
      rw [hpassed hr] at hopen
      subst hopen
      refine ⟨past ++ run ++ [r], [], settled, [], (List.append_nil _).symm,
        hacc.pass_short hr hacc.length_lt, hrows, ?_⟩
      rw [streakOf_of_passed hr]
      rfl
  | raised hr hdue hnone =>
    rw [hnone] at hopen
    subst hopen
    have hlt := hacc.length_lt
    have hle : m.rules.threshold.toNat ≤ run.length + 1 := by
      rw [UInt32.le_iff_toNat_le, hcount hr, List.length_append] at hdue
      exact hdue
    have hlength : run.length + 1 = m.rules.threshold.toNat := by omega
    have hreached : m.streakOf r = m.rules.threshold := by
      rw [← UInt32.toNat_inj, hcount hr, ← hlength, List.length_append]
      rfl
    have hcheck : ((m.alertOf r).toRow.checkId == r.check.id) = true := beq_self_eq_true _
    refine ⟨past, run ++ [r], settled, [(m.alertOf r).toRow], List.append_assoc ..,
      hacc.fail hr (.inr ⟨hle, _, rfl, isAlertedBy_alertOf hreached hlength⟩), ?_, hcount hr⟩
    rw [List.filter_append, hrows, List.filter_singleton, hcheck]
    simp
  | @resolved row hr hrow hrowOpen =>
    have hmem : row ∈ current := hopen ▸ List.mem_filter.2 ⟨hrow, hrowOpen⟩
    rcases hacc.current_alert with ⟨-, rfl⟩ | ⟨-, row', rfl, -⟩
    · cases hmem
    rw [List.mem_singleton] at hmem
    subst hmem
    refine ⟨past ++ run ++ [r], [], settled ++ [row.resolved r.now], [],
      (List.append_nil _).symm, hacc.pass_long hr m.rules.threshold_pos, ?_, ?_⟩
    · rw [Store.filter_change (f := AlertRow.resolved r.now) fun _ => rfl, hrows,
        hacc.change_resolved, List.append_nil]
    · rw [streakOf_of_passed hr]
      rfl

/-- There are never 2³² failures in a row. -/
def FewInARow (reports : List Report) : Prop :=
  ∀ run, run <:+: reports → (∀ f ∈ run, f.failed = true) → run.length < 4294967296

theorem AccountsFor.same {reports : List Report} (h : m.AccountsFor r.check.id reports)
    (hm : m.Tidy) (hends : m.Completes r) (hfew : FewInARow (reports ++ [r])) :
    (m.after r).AccountsFor r.check.id (reports ++ [r]) := by
  obtain ⟨past, run, settled, current, rfl, hacc, hrows, hstreak⟩ := h
  refine (hm.handled hends).same hacc hrows hstreak fun hr => ?_
  have hinfix : run ++ [r] <:+: past ++ run ++ [r] := by
    rw [List.append_assoc]
    exact (List.suffix_append past _).isInfix
  have hlt := hfew _ hinfix (failed_snoc hacc.run_failed hr)
  rw [List.length_append] at hlt
  exact hlt

theorem AccountsFor.other {checkId : String} {reports : List Report}
    (h : m.AccountsFor checkId reports) (hm : m.Tidy) (hends : m.Completes r)
    (hne : r.check.id ≠ checkId) : (m.after r).AccountsFor checkId reports := by
  obtain ⟨past, run, settled, current, heq, hacc, hrows, hstreak⟩ := h
  refine ⟨past, run, settled, current, heq, hacc, ?_, ?_⟩
  · rw [(hm.handled hends).other hm hne, hrows]
  · rw [after_streaks, Streaks.record]
    split
    · rw [Streaks.count_clear_of_ne _ hne.symm, hstreak]
    · rw [Streaks.count_fail_of_ne _ hne.symm, hstreak]

end Monitor

/-! ## A whole history -/

/-- What happens to a monitor: it processes a result, or somebody asks its store
a query that writes no alerts. -/
inductive Deed where
  | report (r : Report)
  | ask (q : Query) (hq : q.writesAlerts = false)

/-- The result that is processed, if one is. -/
def Deed.report? : Deed → Option Report
  | .report r => some r
  | .ask _ _ => none

/-- The results of a check that are processed, in order. -/
def reportsOf (checkId : String) (deeds : List Deed) : List Report :=
  (deeds.filterMap Deed.report?).filter (·.check.id == checkId)

namespace Monitor

/-- The monitor after a deed. -/
def afterDeed (m : Monitor) : Deed → Monitor
  | .report r => m.after r
  | .ask q _ => { m with store := (m.store.answer q).2 }

/-- The monitor after deeds, one after the other. -/
def afterAll (m : Monitor) (deeds : List Deed) : Monitor :=
  deeds.foldl afterDeed m

variable {m : Monitor}

theorem afterDeed_rules (m : Monitor) (d : Deed) : (m.afterDeed d).rules = m.rules := by
  cases d <;> rfl

theorem afterAll_rules (m : Monitor) (deeds : List Deed) : (m.afterAll deeds).rules = m.rules := by
  induction deeds generalizing m with
  | nil => rfl
  | cons d rest ih => exact (ih (m.afterDeed d)).trans (afterDeed_rules m d)

/-- Whether every report among deeds is processed to its end. -/
def AllComplete (m : Monitor) : List Deed → Prop
  | [] => True
  | d :: rest => (∀ r ∈ d.report?, m.Completes r) ∧ (m.afterDeed d).AllComplete rest

/-- They are if at every failure there is a moment to look back to. -/
theorem allComplete_of_inRange {deeds : List Deed} (h : ∀ r, Deed.report r ∈ deeds →
    r.failed = true → Alerting.WindowInRange m.rules r.now) : m.AllComplete deeds := by
  induction deeds generalizing m with
  | nil => exact trivial
  | cons d rest ih =>
    refine ⟨fun r hr => completes_of_inRange (h r ?_), ih ?_⟩
    · cases d with
      | report r' =>
        cases hr
        exact List.mem_cons_self
      | ask q hq => cases hr
    · rw [afterDeed_rules]
      exact fun r hr => h r (List.mem_cons_of_mem d hr)

/-- What only asks leaves the rows and the streaks alone. -/
theorem alerts_afterDeed_ask (m : Monitor) {q : Query} (hq : q.writesAlerts = false) :
    (m.afterDeed (.ask q hq)).store.alerts = m.store.alerts := by
  show (m.store.answer q).2.alerts = m.store.alerts
  rw [Store.alerts_answer, Query.alertsAfter_of_not_writesAlerts hq]

theorem Tidy.afterDeed (hm : m.Tidy) {d : Deed} (hends : ∀ r ∈ d.report?, m.Completes r) :
    (m.afterDeed d).Tidy := by
  cases d with
  | report r => exact hm.after (hends r rfl)
  | ask q hq =>
    have halerts := m.alerts_afterDeed_ask hq
    exact ⟨hm.injective, hm.plain, halerts ▸ hm.readable, halerts ▸ hm.named,
      halerts ▸ hm.distinct⟩

/-- **A deed moves the account of every check on** by what it reports of it. -/
theorem AccountsFor.afterDeed {checkId : String} {reports : List Report}
    (h : m.AccountsFor checkId reports) (hm : m.Tidy) {d : Deed}
    (hends : ∀ r ∈ d.report?, m.Completes r)
    (hfew : FewInARow (reports ++ reportsOf checkId [d])) :
    (m.afterDeed d).AccountsFor checkId (reports ++ reportsOf checkId [d]) := by
  cases d with
  | report r =>
    by_cases heq : r.check.id = checkId
    · subst heq
      have hreports : reportsOf r.check.id [.report r] = [r] := by simp [reportsOf, Deed.report?]
      rw [hreports] at hfew ⊢
      exact h.same hm (hends r rfl) hfew
    · have hreports : reportsOf checkId [.report r] = [] := by
        simp [reportsOf, Deed.report?, heq]
      rw [hreports, List.append_nil]
      exact h.other hm (hends r rfl) heq
  | ask q hq =>
    obtain ⟨past, run, settled, current, heq, hacc, hrows, hstreak⟩ := h
    refine ⟨past, run, settled, current, (List.append_nil _).trans heq, hacc, ?_, hstreak⟩
    rw [m.alerts_afterDeed_ask hq, hrows]

/-- Deeds move the account of every check on by all that they report of it. -/
theorem AccountsFor.afterAll {checkId : String} {deeds : List Deed} {m : Monitor}
    {reports : List Report} (h : m.AccountsFor checkId reports) (hm : m.Tidy)
    (hends : m.AllComplete deeds) (hfew : FewInARow (reports ++ reportsOf checkId deeds)) :
    (m.afterAll deeds).AccountsFor checkId (reports ++ reportsOf checkId deeds) := by
  induction deeds generalizing m reports with
  | nil =>
    show m.AccountsFor checkId (reports ++ [])
    rw [List.append_nil]
    exact h
  | cons d rest ih =>
    have hsplit : reportsOf checkId (d :: rest) =
        reportsOf checkId [d] ++ reportsOf checkId rest := by
      unfold reportsOf
      rw [← List.filter_append, ← List.filterMap_append]
      rfl
    obtain ⟨hfirst, hlater⟩ := hends
    rw [hsplit, ← List.append_assoc] at hfew ⊢
    refine ih (h.afterDeed hm hfirst fun run hrun => ?_) (hm.afterDeed hfirst) hlater hfew
    exact hfew run (hrun.trans (List.prefix_append _ _).isInfix)

theorem threshold_create (threshold : UInt32) (correlation : Option Duration)
    (maintenance : Bool) :
    (AlertRules.create threshold correlation maintenance).threshold = max threshold 1 := by
  have hmax : max threshold 1 = if threshold ≤ 1 then 1 else threshold := rfl
  rw [hmax]
  unfold AlertRules.create
  split
  · rename_i hpos
    split
    · rename_i hle
      exact UInt32.le_antisymm hle hpos
    · rfl
  · rename_i hzero
    rw [if_pos (UInt32.le_of_lt (UInt32.not_le.1 hzero))]

/-- **Every long enough spell of failures has one alert**, and no other alert is there, if all
results are processed to their end. -/
theorem one_alert_per_spell (threshold : UInt32) (correlation : Option Duration)
    (maintenance : Bool) {store : Store} {names : Names} (hempty : store.alerts = [])
    (hinjective : Function.Injective names.name) (hplain : ∀ n, PlainText (names.name n))
    {deeds : List Deed}
    (hends : (Monitor.mk (.create threshold correlation maintenance) .empty store names).AllComplete
      deeds)
    (checkId : String) (hfew : FewInARow (reportsOf checkId deeds)) :
    let m := (Monitor.mk (.create threshold correlation maintenance) .empty store names).afterAll
      deeds
    List.Forall₂ (Spell.IsAlertedBy (max threshold 1))
        (longSpells (max threshold 1) (reportsOf checkId deeds))
        (m.store.alerts.filter (·.checkId == checkId)) ∧
      (m.streaks.count checkId).toNat = (failing (reportsOf checkId deeds)).length := by
  intro m
  let m₀ : Monitor := ⟨.create threshold correlation maintenance, .empty, store, names⟩
  have htidy : m₀.Tidy := by
    refine ⟨hinjective, hplain, ?_, ?_, ?_⟩ <;> simp [m₀, hempty]
  have hstart : m₀.AccountsFor checkId [] := by
    refine ⟨[], [], [], [], rfl, .nil m₀.rules.threshold_pos, ?_, rfl⟩
    simp [m₀, hempty]
  have hend := hstart.afterAll htidy hends hfew
  obtain ⟨past, run, settled, current, hreports, hacc, hrows, hstreak⟩ := hend
  rw [List.nil_append] at hreports
  have hthreshold : (m₀.afterAll deeds).rules.threshold = max threshold 1 := by
    rw [afterAll_rules]
    exact threshold_create threshold correlation maintenance
  rw [hthreshold] at hacc
  have hpos : 1 ≤ max threshold 1 := by
    rw [← threshold_create threshold correlation maintenance]
    exact AlertRules.threshold_pos _
  refine ⟨?_, ?_⟩
  · show List.Forall₂ _ _ ((m₀.afterAll deeds).store.alerts.filter (·.checkId == checkId))
    rw [hrows, hreports]
    exact hacc.alerts hpos
  · rw [hreports, failing_append hacc.run_failed hacc.past_endsWell]
    exact hstreak

/-- An outage that ended and one that goes on, with a failure of another check in between. -/
theorem one_alert_per_spell_of_two_outages :
    ∃ (names : Names) (deeds : List Deed),
      let m := (Monitor.mk (.create 2 none false) .empty .empty names).afterAll deeds
      List.Forall₂ (Spell.IsAlertedBy (max 2 1)) (longSpells (max 2 1) (reportsOf "check-1" deeds))
          (m.store.alerts.filter (·.checkId == "check-1")) ∧
        (m.store.alerts.map fun row => (row.checkId, row.triggeredAt, row.resolvedAt)) =
          [("check-1", 1000, some 2000)] ∧
        (m.streaks.count "check-1").toNat = 1 := by
  let check : Check := .create "check-1" "device-1" "http" "http://device-1/" .epoch
  let other : Check := .create "check-2" "device-1" "tcp" "device-1:22" .epoch
  let names : Names := ⟨fun n => .ofList (.replicate n 'n'), 0⟩
  let deeds : List Deed := [
    .report ⟨check, .failed check "timeout" .epoch, .epoch⟩,
    .report ⟨other, .failed other "refused" .epoch, .epoch⟩,
    .report ⟨check, .failed check "timeout" .epoch, .ofMillis 1000⟩,
    .ask (.deleteCheck "check-2") rfl,
    .report ⟨check, .passed check 1 .epoch, .ofMillis 2000⟩,
    .report ⟨check, .failed check "timeout" .epoch, .ofMillis 3000⟩]
  have hinjective : Function.Injective names.name := by
    intro n n' heq
    have hlen := congrArg (fun s : String => s.toList.length) heq
    simpa [names] using hlen
  have hplain : ∀ n, PlainText (names.name n) := by
    intro n hmem
    simp [names] at hmem
  have hfew : FewInARow (reportsOf "check-1" deeds) := by
    intro run hrun _
    have hle := hrun.length_le
    have hlen : (reportsOf "check-1" deeds).length = 4 := by
      dsimp only [deeds, check, other]
      cbv
    omega
  have hempty : Store.empty.alerts = [] := rfl
  have hends : (Monitor.mk (.create 2 none false) .empty .empty names).AllComplete deeds := by
    refine allComplete_of_inRange fun r _ _ window hwindow => ?_
    cases hwindow
  obtain ⟨hrows, hstreak⟩ := one_alert_per_spell 2 none false hempty hinjective hplain hends
    "check-1" hfew
  refine ⟨names, deeds, hrows, ?_, ?_⟩
  · dsimp only [deeds, check, other, names]
    cbv
  · rw [hstreak]
    dsimp only [deeds, check, other]
    cbv

end Monitor

end NetWatch
