/-
NetWatch.Proofs.Alerting.Commuting — results of checks that have nothing to do with each other
(`process_result`).

Which of two results is processed first makes no difference if neither check
looks at what the other may change: the open alerts of the other's device and of
the devices that alerts of the other are about (`Alerting.Unrelated`). What the
first call does to the rows of alerts is then out of sight of the second
(`Alerting.Spares.seesAlike`), so its effect is the one that it would have had
on its own; and any two effects leave the same rows in either order
(`Alerting.Effect.rowsAfter_perm`).

An alert is resolved by the name that its row shows. That is its own name only
if the name is plain text, which is why the open alerts of the two checks must
have such names (`Monitor.not_process_comm`).
-/
import NetWatch.Proofs.Alerting.Effect
import NetWatch.Proofs.Keyed
import Mathlib

namespace NetWatch

open AlertRow (isOpenFor)

/-! ## Streaks -/

namespace Streaks

/-- What a streak is after a result depends on that streak alone. -/
theorem count_record_congr {s s' : Streaks} {c : String} (h : s.count c = s'.count c)
    (success : Bool) : (s.record c success).count c = (s'.record c success).count c := by
  cases success with
  | true => exact (s.count_clear_self c).trans (s'.count_clear_self c).symm
  | false =>
    show (s.fail c).count c = (s'.fail c).count c
    rw [count_fail_self, count_fail_self, h]

/-- Results of different checks are counted in any order. -/
theorem count_record_comm (s : Streaks) {c d : String} (h : c ≠ d) (success success' : Bool)
    (id : String) :
    ((s.record c success).record d success').count id =
      ((s.record d success').record c success).count id := by
  by_cases hc : id = c
  · subst hc
    rw [count_record_of_ne _ h]
    exact count_record_congr (s.count_record_of_ne h success').symm success
  · by_cases hd : id = d
    · subst hd
      rw [count_record_of_ne _ hc]
      exact count_record_congr (s.count_record_of_ne hc success) success'
    · rw [count_record_of_ne _ hd, count_record_of_ne _ hc, count_record_of_ne _ hc,
        count_record_of_ne _ hd]

end Streaks

/-! ## Changes -/

namespace Store

variable {α : Type} {which which' : α → Bool} {f : α → α} {rows : List α}

/-- One change made to two kinds of rows that are of neither kind afterwards. -/
theorem change_comm (h : ∀ r, which (f r) = false) (h' : ∀ r, which' (f r) = false) :
    change which f (change which' f rows) = change which' f (change which f rows) := by
  unfold change
  rw [List.map_map, List.map_map]
  refine List.map_congr_left fun r _ => ?_
  cases hr : which r <;> cases hr' : which' r <;> simp [hr, hr', h, h']

/-- A change is out of sight of whoever sees the changed rows neither before nor after it. -/
theorem filter_change_of_unseen {p : α → Bool}
    (h : ∀ r ∈ rows, which r = true → p r = false ∧ p (f r) = false) :
    (change which f rows).filter p = rows.filter p := by
  induction rows with
  | nil => rfl
  | cons r rest ih =>
    have hrest := ih fun r' hr' => h r' (List.mem_cons_of_mem r hr')
    unfold change at hrest ⊢
    cases hr : which r with
    | false => simp [hr, List.filter_cons, hrest]
    | true =>
      obtain ⟨hbefore, hafter⟩ := h r List.mem_cons_self hr
      simp [hr, hbefore, hafter, hrest]

end Store

namespace Alerting

/-! ## Two effects on the rows -/

namespace Effect

variable {now : Timestamp} {new new' : Option Suppression → Alert} {e e' : Effect}
  {rows : List AlertRow}

/-- An effect leaves alone the rows of a kind that has neither its new alert nor the
one that it resolves, and none that is resolved. -/
theorem filter_rowsAfter {p : AlertRow → Bool} (hclosed : ∀ r, r.isActive = false → p r = false)
    (hnew : ∀ why, p (new why).toRow = false)
    (hresolved : ∀ a, e = .resolved a → ∀ r ∈ rows, r.id = a.id → p r = false) :
    (e.rowsAfter now new rows).filter p = rows.filter p := by
  cases e with
  | nothing => rfl
  | stopped => rfl
  | raised why => simp [rowsAfter, hnew]
  | resolved a =>
    refine Store.filter_change_of_unseen fun r hr hwhich => ?_
    obtain ⟨hid, -⟩ := Bool.and_eq_true_iff.1 hwhich
    exact ⟨hresolved a rfl r hr (beq_iff_eq.1 hid), hclosed _ (AlertRow.isActive_resolved now r)⟩

/-- A name that is free stays free, if the new alert has another. -/
theorem id_ne_of_mem_rowsAfter {id : String} (hfree : ∀ r ∈ rows, r.id ≠ id)
    (hnew : ∀ why, (new why).id ≠ id) : ∀ r ∈ e.rowsAfter now new rows, r.id ≠ id := by
  cases e with
  | nothing => exact hfree
  | stopped => exact hfree
  | raised why => exact Store.of_mem_append hfree (hnew why)
  | resolved a => exact Store.of_mem_change hfree fun _ hr => hr

/-- A row that is not resolved may as well be entered afterwards. -/
theorem rowsAfter_concat {r : AlertRow} (h : ∀ a, e = .resolved a → r.id ≠ a.id) :
    (e.rowsAfter now new (rows ++ [r])).Perm (e.rowsAfter now new rows ++ [r]) := by
  cases e with
  | nothing => exact .refl _
  | stopped => exact .refl _
  | raised why =>
    simp only [rowsAfter, List.append_assoc]
    exact List.perm_append_comm.append_left rows
  | resolved a =>
    simp [rowsAfter, Query.alertsAfter, Store.change, h a rfl]

/-- **Two effects leave the same rows in either order**, if neither resolves what the
other raises. -/
theorem rowsAfter_perm (h : ∀ a, e = .resolved a → ∀ why, (new' why).id ≠ a.id)
    (h' : ∀ a, e' = .resolved a → ∀ why, (new why).id ≠ a.id) :
    (e'.rowsAfter now new' (e.rowsAfter now new rows)).Perm
      (e.rowsAfter now new (e'.rowsAfter now new' rows)) := by
  cases e' with
  | nothing => exact .refl _
  | stopped => exact .refl _
  | raised why => exact (rowsAfter_concat fun a ha => h a ha why).symm
  | resolved a =>
    cases e with
    | nothing => exact .refl _
    | stopped => exact .refl _
    | raised why => exact rowsAfter_concat fun a' ha' => h' a' ha' why
    | resolved a' =>
      exact .of_eq (Store.change_comm (fun r => by simp [AlertRow.isActive_resolved])
        fun r => by simp [AlertRow.isActive_resolved])

end Effect

/-! ## Checks that have nothing to do with each other -/

/-- Whether a check keeps out of the sight of another, which looks neither at the alerts
of its device nor at those of a device that an open alert of it is about. -/
structure Spares (s : Store) (check other : Check) : Prop where
  device : ¬Watches s other check.deviceId
  alerts : ∀ row ∈ s.alerts, row.isOpenFor check.id = true → ¬Watches s other row.deviceId

/-- Whether two checks have nothing to do with each other. -/
structure Unrelated (s : Store) (check other : Check) : Prop where
  ids : check.id ≠ other.id
  spares : Spares s check other
  spared : Spares s other check

theorem spares_iff {s : Store} {check other : Check} :
    Spares s check other ↔ ¬Watches s other check.deviceId ∧
      ∀ row ∈ s.alerts, row.isOpenFor check.id = true → ¬Watches s other row.deviceId :=
  ⟨fun h => ⟨h.device, h.alerts⟩, fun h => ⟨h.1, h.2⟩⟩

theorem unrelated_iff {s : Store} {check other : Check} :
    Unrelated s check other ↔ check.id ≠ other.id ∧ Spares s check other ∧ Spares s other check :=
  ⟨fun h => ⟨h.ids, h.spares, h.spared⟩, fun h => ⟨h.1, h.2.1, h.2.2⟩⟩

instance (s : Store) (check other : Check) : Decidable (Spares s check other) :=
  decidable_of_iff _ spares_iff.symm

instance (s : Store) (check other : Check) : Decidable (Unrelated s check other) :=
  decidable_of_iff _ unrelated_iff.symm

theorem Unrelated.symm {s : Store} {check other : Check} (h : Unrelated s check other) :
    Unrelated s other check :=
  ⟨h.ids.symm, h.spared, h.spares⟩

variable {w : World} {s : Store} {rules : AlertRules} {check other : Check} {success : Bool}
  {streak : UInt32} {a : Alert}

/-- What a success resolves is an open alert of its check, if it has a name that is
shown as it is kept. -/
theorem exists_of_effect_eq_resolved
    (hplain : ∀ row ∈ s.alerts, row.isOpenFor check.id = true → PlainText row.id)
    (h : effect rules w s check success streak = .resolved a) :
    ∃ row ∈ s.alerts, row.isOpenFor check.id = true ∧ row.id = a.id := by
  have hfound : (s.answer (.activeAlert check.id)).1 = .ok (some a) := by
    unfold effect at h
    split at h
    · rename_i hfound
      cases h
      exact hfound
    all_goals first | cases h | skip
    split at h
    · cases h
    · split at h <;> cases h
  obtain ⟨row, hrow, hopen, hshown⟩ := Store.exists_isOpenFor_of_answer hfound
  refine ⟨row, hrow, hopen, ?_⟩
  rw [← AlertRow.id_of_toAlert_eq_ok hshown, shownText_eq_self (hplain row hrow hopen)]

/-- **What is done about a result is out of sight of an unrelated check.** -/
theorem Spares.seesAlike (h : Spares s check other) (hne : check.id ≠ other.id)
    (hdistinct : (s.alerts.map (·.id)).Nodup)
    (hplain : ∀ row ∈ s.alerts, row.isOpenFor check.id = true → PlainText row.id)
    (now : Timestamp) {new : Option Suppression → Alert}
    (hnew : ∀ why, (new why).checkId = check.id ∧ (new why).deviceId = check.deviceId) :
    SeesAlike other s { s with
      alerts := (effect rules w s check success streak).rowsAfter now new s.alerts } := by
  have hown : ∀ a, effect rules w s check success streak = .resolved a →
      ∀ row ∈ s.alerts, row.id = a.id → row.isOpenFor check.id = true := by
    intro a ha row hrow hid
    obtain ⟨row', hrow', hopen, hid'⟩ := exists_of_effect_eq_resolved hplain ha
    rw [List.inj_on_of_nodup_map hdistinct hrow hrow' (hid.trans hid'.symm)]
    exact hopen
  refine ⟨rfl, rfl, rfl, ?_, fun deviceId hwatches => ?_⟩
  · refine Effect.filter_rowsAfter (fun r hr => ?_) (fun why => ?_) fun a ha row hrow hid => ?_
    · simp [isOpenFor, hr]
    · have hcheck : ((new why).toRow.checkId == other.id) = false :=
        beq_eq_false_iff_ne.2 fun heq => hne ((hnew why).1.symm.trans heq)
      simp [isOpenFor, hcheck]
    · have hcheck := (Bool.and_eq_true_iff.1 (hown a ha row hrow hid)).1
      rw [isOpenFor, beq_iff_eq.1 hcheck, beq_eq_false_iff_ne.2 hne, Bool.false_and]
  · refine Effect.filter_rowsAfter (fun r hr => ?_) (fun why => ?_) fun a ha row hrow hid => ?_
    · simp [isOpenOn, hr]
    · have hdevice : ((new why).toRow.deviceId == deviceId) = false := by
        refine beq_eq_false_iff_ne.2 fun heq => h.device ?_
        have hsame : check.deviceId = deviceId := (hnew why).2.symm.trans heq
        rw [hsame]
        exact hwatches
      simp [isOpenOn, hdevice]
    · have hdevice : (row.deviceId == deviceId) = false :=
        beq_eq_false_iff_ne.2 fun heq => h.alerts row hrow (hown a ha row hrow hid) (heq ▸ hwatches)
      simp [isOpenOn, hdevice]

end Alerting

/-! ## Two results -/

namespace Monitor

open Alerting

/-- Processes a result; the alert that it may raise is given a name of its own. -/
def processAs (m : Monitor) (w : World) (id : String) (check : Check) (result : CheckResult) :
    Step (Option Alert) :=
  { m with names := ⟨fun _ => id, 0⟩ }.process w check result

/-- The streak of a check once a result of it is counted. -/
def streakWith (m : Monitor) (check : Check) (result : CheckResult) : UInt32 :=
  (m.streaks.record check.id result.success).count check.id

/-- What a result leads to. -/
def effectOf (m : Monitor) (w : World) (check : Check) (result : CheckResult) : Effect :=
  effect m.rules w m.store check result.success (m.streakWith check result)

/-- The alert that a result may raise. -/
def newAlertOf (m : Monitor) (w : World) (id : String) (check : Check) (result : CheckResult) :
    Option Suppression → Alert :=
  newAlert m.rules check result (m.streakWith check result) id w.now

variable {m : Monitor} {w : World} {c₁ c₂ : Check} {id₁ id₂ : String}

/-- What processing a result does follows from its effect. -/
theorem trace_processAs (hw : w.backend = .sound) {id : String}
    (hfree : ∀ r ∈ m.store.alerts, r.id ≠ id) (check : Check) (result : CheckResult) :
    let new := m.newAlertOf w id check result
    let e := m.effectOf w check result
    (m.processAs w id check result).trace =
      ⟨e.result new, { m.store with alerts := e.rowsAfter w.now new m.store.alerts },
        e.events w.now new, []⟩ :=
  run_react hw hfree _

theorem store_processAs (hw : w.backend = .sound) {id : String}
    (hfree : ∀ r ∈ m.store.alerts, r.id ≠ id) (check : Check) (result : CheckResult) :
    (m.processAs w id check result).monitor.store = { m.store with
      alerts := (m.effectOf w check result).rowsAfter w.now (m.newAlertOf w id check result)
        m.store.alerts } := by
  show (m.processAs w id check result).trace.store = _
  rw [trace_processAs hw hfree]

theorem streaks_processAs (m : Monitor) (w : World) (id : String) (check : Check)
    (result : CheckResult) :
    (m.processAs w id check result).monitor.streaks =
      m.streaks.record check.id result.success := rfl

/-- The streak of a check is not moved by results of others. -/
theorem streakWith_processAs (hne : c₁.id ≠ c₂.id) (r₁ r₂ : CheckResult) :
    (m.processAs w id₁ c₁ r₁).monitor.streakWith c₂ r₂ = m.streakWith c₂ r₂ := by
  have hsame := m.streaks.count_record_of_ne hne.symm r₁.success
  unfold streakWith
  rw [streaks_processAs]
  exact Streaks.count_record_congr hsame r₂.success

/-- A result of a check leads to the same after a result of an unrelated one. -/
theorem effectOf_processAs (hw : w.backend = .sound) (hunrelated : Unrelated m.store c₁ c₂)
    (hdistinct : (m.store.alerts.map (·.id)).Nodup)
    (hplain : ∀ row ∈ m.store.alerts, row.isOpenFor c₁.id = true → PlainText row.id)
    (hfree : ∀ row ∈ m.store.alerts, row.id ≠ id₁) (r₁ r₂ : CheckResult) :
    (m.processAs w id₁ c₁ r₁).monitor.effectOf w c₂ r₂ = m.effectOf w c₂ r₂ := by
  have hseen : SeesAlike c₂ m.store { m.store with
      alerts := (m.effectOf w c₁ r₁).rowsAfter w.now (m.newAlertOf w id₁ c₁ r₁) m.store.alerts } :=
    hunrelated.spares.seesAlike hunrelated.ids hdistinct hplain w.now fun _ => ⟨rfl, rfl⟩
  unfold effectOf
  rw [streakWith_processAs hunrelated.ids, store_processAs hw hfree]
  exact hseen.effect_eq hw r₂.success

/-- What a result of a check may raise is the same after a result of another. -/
theorem newAlertOf_processAs (hne : c₁.id ≠ c₂.id) (id : String) (r₁ r₂ : CheckResult) :
    (m.processAs w id₁ c₁ r₁).monitor.newAlertOf w id c₂ r₂ = m.newAlertOf w id c₂ r₂ := by
  unfold newAlertOf
  rw [streakWith_processAs hne]
  rfl

/-- What comes of a result after that of an unrelated check: its effect is the one that
it has on its own, on the rows that the other leaves. -/
theorem processAs_processAs (hw : w.backend = .sound) (hunrelated : Unrelated m.store c₁ c₂)
    (hdistinct : (m.store.alerts.map (·.id)).Nodup)
    (hplain : ∀ row ∈ m.store.alerts, row.isOpenFor c₁.id = true → PlainText row.id)
    (hfree₁ : ∀ row ∈ m.store.alerts, row.id ≠ id₁)
    (hfree₂ : ∀ row ∈ m.store.alerts, row.id ≠ id₂) (hnames : id₁ ≠ id₂) (r₁ r₂ : CheckResult) :
    let second := (m.processAs w id₁ c₁ r₁).monitor.processAs w id₂ c₂ r₂
    let rows := (m.effectOf w c₁ r₁).rowsAfter w.now (m.newAlertOf w id₁ c₁ r₁) m.store.alerts
    second.monitor.store.alerts =
        (m.effectOf w c₂ r₂).rowsAfter w.now (m.newAlertOf w id₂ c₂ r₂) rows ∧
      second.trace.events = (m.processAs w id₂ c₂ r₂).trace.events := by
  intro second rows
  have hstore := store_processAs hw hfree₁ c₁ r₁
  have hfree : ∀ row ∈ (m.processAs w id₁ c₁ r₁).monitor.store.alerts, row.id ≠ id₂ := by
    rw [hstore]
    exact Effect.id_ne_of_mem_rowsAfter hfree₂ fun _ => hnames
  have heffect := effectOf_processAs hw hunrelated hdistinct hplain hfree₁ r₁ r₂
  have hnew : (m.processAs w id₁ c₁ r₁).monitor.newAlertOf w id₂ c₂ r₂ =
      m.newAlertOf w id₂ c₂ r₂ := newAlertOf_processAs hunrelated.ids id₂ r₁ r₂
  constructor
  · show second.monitor.store.alerts = _
    rw [store_processAs hw hfree, heffect, hnew, hstore]
  · show second.trace.events = _
    rw [trace_processAs hw hfree, trace_processAs hw hfree₂, heffect, hnew]

/-- **Results of unrelated checks commute.** Whichever is processed first, the streaks, the
rows of alerts and what is told about either check are the same. -/
theorem process_comm (hw : w.backend = .sound) (hunrelated : Unrelated m.store c₁ c₂)
    (hdistinct : (m.store.alerts.map (·.id)).Nodup)
    (hplain : ∀ row ∈ m.store.alerts,
      row.isOpenFor c₁.id = true ∨ row.isOpenFor c₂.id = true → PlainText row.id)
    (hfree₁ : ∀ row ∈ m.store.alerts, row.id ≠ id₁)
    (hfree₂ : ∀ row ∈ m.store.alerts, row.id ≠ id₂) (hnames : id₁ ≠ id₂) (r₁ r₂ : CheckResult) :
    let first₁ := m.processAs w id₁ c₁ r₁
    let then₂ := first₁.monitor.processAs w id₂ c₂ r₂
    let first₂ := m.processAs w id₂ c₂ r₂
    let then₁ := first₂.monitor.processAs w id₁ c₁ r₁
    (∀ checkId, then₂.monitor.streaks.count checkId = then₁.monitor.streaks.count checkId) ∧
      then₂.monitor.store.alerts.Perm then₁.monitor.store.alerts ∧
      first₁.trace.events = then₁.trace.events ∧ then₂.trace.events = first₂.trace.events := by
  intro first₁ then₂ first₂ then₁
  have hplain₁ := fun row hrow hopen => hplain row hrow (.inl hopen)
  have hplain₂ := fun row hrow hopen => hplain row hrow (.inr hopen)
  obtain ⟨hrows₂, hevents₂⟩ := processAs_processAs hw hunrelated hdistinct hplain₁ hfree₁ hfree₂
    hnames r₁ r₂
  obtain ⟨hrows₁, hevents₁⟩ := processAs_processAs hw hunrelated.symm hdistinct hplain₂ hfree₂
    hfree₁ hnames.symm r₂ r₁
  refine ⟨fun checkId => ?_, ?_, hevents₁.symm, hevents₂⟩
  · simp only [then₂, first₁, then₁, first₂, streaks_processAs]
    exact m.streaks.count_record_comm hunrelated.ids r₁.success r₂.success checkId
  · rw [hrows₂, hrows₁]
    refine Effect.rowsAfter_perm (fun a ha why heq => ?_) fun a ha why heq => ?_
    · obtain ⟨row, hrow, -, hid⟩ := exists_of_effect_eq_resolved hplain₁ ha
      exact hfree₂ row hrow (hid.trans heq.symm)
    · obtain ⟨row, hrow, -, hid⟩ := exists_of_effect_eq_resolved hplain₂ ha
      exact hfree₁ row hrow (hid.trans heq.symm)

/-! ### Two checks -/

/-- A check of a server behind a router. -/
def web : Check :=
  ⟨"web", "server", "tcp", "10.0.0.1:80", 60, true, .epoch, .epoch⟩

/-- A check of a printer that depends on a switch. -/
def ping : Check :=
  ⟨"ping", "printer", "icmp", "10.0.0.2", 60, true, .epoch, .epoch⟩

/-- An open alert of a check. -/
def openAlert (id : String) (check : Check) : AlertRow :=
  ⟨id, check.id, check.deviceId, "warning", "down", 0, none, none, 3, false, none⟩

/-- A monitor of the two checks. -/
def ofTwoChecks (alerts : List AlertRow) : Monitor where
  rules := .create 1 (Duration.ofSeconds? 3600) true
  streaks := .empty
  store :=
    { Store.empty with
      alerts
      devices := [⟨"server", "srv", some "router", none⟩, ⟨"printer", "prn", none, none⟩]
      dependencies := [⟨"ping", "switch", 0⟩] }
  names := ⟨fun _ => "", 0⟩

theorem process_comm_of_failure_and_recovery :
    let m := ofTwoChecks [openAlert "alert-1" ping]
    let w : World := ⟨.epoch, .sound, fun _ => .unreachable⟩
    let first₁ := m.processAs w "alert-2" web (.failed web "timeout" .epoch)
    let then₂ := first₁.monitor.processAs w "alert-3" ping (.passed ping 1 .epoch)
    let first₂ := m.processAs w "alert-3" ping (.passed ping 1 .epoch)
    let then₁ := first₂.monitor.processAs w "alert-2" web (.failed web "timeout" .epoch)
    first₁.trace.events.length = 1 ∧ first₂.trace.events.length = 1 ∧
      then₂.monitor.store.alerts.Perm then₁.monitor.store.alerts ∧
      first₁.trace.events = then₁.trace.events ∧ then₂.trace.events = first₂.trace.events := by
  intro m w first₁ then₂ first₂ then₁
  have hunrelated : Alerting.Unrelated m.store web ping := by decide
  have hfree₁ : ∀ row ∈ m.store.alerts, row.id ≠ "alert-2" := by decide
  have hfree₂ : ∀ row ∈ m.store.alerts, row.id ≠ "alert-3" := by decide
  have hsame := process_comm (w := w) rfl hunrelated (by decide) (by decide) hfree₁ hfree₂
    (by decide) (.failed web "timeout" .epoch) (.passed ping 1 .epoch)
  refine ⟨?_, ?_, hsame.2⟩
  · dsimp only [first₁, m, w]
    cbv
  · dsimp only [first₂, m, w]
    cbv

/-- If the name of an alert is not shown as it is kept, an alert of another check may be
resolved in its place; which recoveries are told of then depends on the order. -/
theorem not_process_comm : ¬ ∀ (m : Monitor) (w : World) (c₁ c₂ : Check) (id₁ id₂ : String)
    (r₁ r₂ : CheckResult), w.backend = .sound → Unrelated m.store c₁ c₂ →
    (m.store.alerts.map (·.id)).Nodup → (∀ row ∈ m.store.alerts, row.id ≠ id₁) →
    (∀ row ∈ m.store.alerts, row.id ≠ id₂) → id₁ ≠ id₂ →
    let first₁ := m.processAs w id₁ c₁ r₁
    let then₂ := first₁.monitor.processAs w id₂ c₂ r₂
    let first₂ := m.processAs w id₂ c₂ r₂
    let then₁ := first₂.monitor.processAs w id₁ c₁ r₁
    (∀ checkId, then₂.monitor.streaks.count checkId = then₁.monitor.streaks.count checkId) ∧
      then₂.monitor.store.alerts.Perm then₁.monitor.store.alerts ∧
      first₁.trace.events = then₁.trace.events ∧ then₂.trace.events = first₂.trace.events := by
  intro h
  let m := ofTwoChecks [openAlert "x\x00y" web, openAlert "x" ping]
  let w : World := ⟨.epoch, .sound, fun _ => .unreachable⟩
  let first₁ := m.processAs w "alert-1" web (.passed web 1 .epoch)
  let first₂ := m.processAs w "alert-2" ping (.passed ping 1 .epoch)
  let then₂ := first₁.monitor.processAs w "alert-2" ping (.passed ping 1 .epoch)
  have hsame : then₂.trace.events = first₂.trace.events :=
    (h m w web ping "alert-1" "alert-2" (.passed web 1 .epoch) (.passed ping 1 .epoch) rfl
      (by decide) (by decide) (by decide) (by decide) (by decide)).2.2.2
  have hquiet : then₂.trace.events.length = 0 := by
    dsimp only [then₂, first₁, m, w]
    cbv
  have htold : first₂.trace.events.length = 1 := by
    dsimp only [first₂, m, w]
    cbv
  rw [hsame, htold] at hquiet
  cases hquiet

end Monitor

end NetWatch
