/-
NetWatch.Proofs.Store.AlertTable — what queries do to the table of alerts.

Four queries write to the table: one enters a row, one resolves, one
acknowledges and one purges. `Store.alerts_answer` says what each of them makes
of the rows, and that all others leave them alone; whatever is to be known
about the alerts after a query is read off the rows alone from there on.

Two consequences are stated here. A query that enters no alert gives no check
an open alert that it had not (`length_filter_isOpenFor_alertsAfter_le`), and
every row it leaves is a row from before, the same but for the two times that
may be set later (`exists_earlier_of_mem_alertsAfter`).

The last sections are about rows that are read, each of which shows an alert
(`Store.readAlerts_eq_ok_iff`), and about the look-up of the open alert of a
check: what it answers says whether there is one (`Store.answer_activeAlert`).
-/
import NetWatch.Proofs.Store.Frame
import NetWatch.Proofs.Store.PlainText
import Mathlib.Data.List.Forall2

namespace NetWatch

/-! ## What becomes of a row -/

namespace AlertRow

/-- The row of an alert once it is resolved. -/
def resolved (time : Timestamp) (r : AlertRow) : AlertRow :=
  { r with resolvedAt := some time.toMillis }

/-- The row of an alert once it is acknowledged. -/
def acknowledged (time : Timestamp) (r : AlertRow) : AlertRow :=
  { r with acknowledgedAt := some time.toMillis }

/-- Whether a row is an open alert of a check. -/
def isOpenFor (checkId : String) (r : AlertRow) : Bool :=
  r.checkId == checkId && r.isActive

/-- Whether the severity of a row has a name. -/
def Readable (r : AlertRow) : Prop :=
  ∃ severity : Severity, r.severity = severity.name

/-- An alert is what a row shows. -/
def Shows (r : AlertRow) (a : Alert) : Prop :=
  r.toAlert = .ok a

theorem isActive_resolved (time : Timestamp) (r : AlertRow) :
    (r.resolved time).isActive = false := rfl

/-- The open alerts of a check are those of its alerts that are open. -/
theorem filter_isOpenFor (checkId : String) (rows : List AlertRow) :
    rows.filter (isOpenFor checkId) = (rows.filter (·.checkId == checkId)).filter isActive := by
  rw [List.filter_filter]
  exact List.filter_congr fun r _ => Bool.and_comm _ _

theorem isOpenFor_resolved (checkId : String) (time : Timestamp) (r : AlertRow) :
    (r.resolved time).isOpenFor checkId = false := by
  simp [isOpenFor, isActive_resolved]

/-- Whether a row may be what became of another: an alert may be resolved once
and acknowledged, and is otherwise what it was when it was raised. -/
def Later (r r' : AlertRow) : Prop :=
  r' = { r with resolvedAt := r'.resolvedAt, acknowledgedAt := r'.acknowledgedAt } ∧
    (r.isActive = false → r'.resolvedAt = r.resolvedAt)

/-- What is shown of a row, apart from its severity. -/
theorem Shows.eq {r : AlertRow} {a : Alert} (h : r.Shows a) : ∃ severity,
    a = ⟨shownText r.id, shownText r.checkId, shownText r.deviceId, severity, shownText r.message,
      .ofMillis r.triggeredAt, r.resolvedAt.map .ofMillis, r.acknowledgedAt.map .ofMillis,
      r.consecutiveFailures, r.suppressed, r.suppressedBy.map shownText⟩ := by
  unfold Shows toAlert at h
  split at h <;> cases h
  exact ⟨_, rfl⟩

/-- The name that a row shows is that of the alert it shows. -/
theorem id_of_toAlert_eq_ok {r : AlertRow} {a : Alert} (h : r.toAlert = .ok a) :
    shownText r.id = a.id := by
  obtain ⟨severity, rfl⟩ := Shows.eq h
  rfl

/-- A row whose severity has a name shows an alert. -/
theorem Readable.exists_toAlert {r : AlertRow} (h : r.Readable) : ∃ a, r.toAlert = .ok a := by
  obtain ⟨severity, hseverity⟩ := h
  unfold toAlert
  rw [hseverity, severity.named?_shownText]
  exact ⟨_, rfl⟩

theorem Later.refl (r : AlertRow) : r.Later r :=
  ⟨rfl, fun _ => rfl⟩

theorem Later.trans {r r' r'' : AlertRow} (h : r.Later r') (h' : r'.Later r'') : r.Later r'' := by
  refine ⟨?_, fun hr => ?_⟩
  · rw [h'.1, h.1]
  · have hr' : r'.isActive = false := by
      unfold isActive at hr ⊢
      rw [h.2 hr, hr]
    rw [h'.2 hr', h.2 hr]

theorem Later.id_eq {r r' : AlertRow} (h : r.Later r') : r'.id = r.id := by
  rw [h.1]

/-- What is open now was open before. -/
theorem Later.isActive_of_isActive {r r' : AlertRow} (h : r.Later r') (h' : r'.isActive = true) :
    r.isActive = true := by
  cases hr : r.isActive with
  | true => rfl
  | false =>
    unfold isActive at h' hr
    rw [h.2 hr, hr] at h'
    exact h'

end AlertRow

open AlertRow (resolved acknowledged isOpenFor isActive_resolved isOpenFor_resolved Later
  Later.refl)

/-! ## Rows after a query -/

namespace Query

/-- Whether a query enters an alert. -/
def entersAlert : Query → Bool
  | .insertAlert _ => true
  | _ => false

theorem entersAlert_of_isLookup {q : Query} (h : q.isLookup = true) : q.entersAlert = false := by
  cases q <;> first | rfl | cases h

/-- Whether a query writes to the table of alerts. -/
def writesAlerts : Query → Bool
  | .insertAlert _ | .resolveAlert _ _ | .acknowledgeAlert _ _ | .deleteAlertsBefore _ => true
  | _ => false

/-- What a query makes of the rows of the table of alerts. -/
def alertsAfter (q : Query) (rows : List AlertRow) : List AlertRow :=
  match q with
  | .insertAlert a => if rows.any (·.id == a.id) then rows else rows ++ [a.toRow]
  | .resolveAlert id time =>
    Store.change (fun r => r.id == id && r.isActive) (resolved time) rows
  | .acknowledgeAlert id time => Store.change (·.id == id) (acknowledged time) rows
  | .deleteAlertsBefore cutoff => rows.filter (!Store.alertExpired cutoff ·)
  | _ => rows

/-- A query that writes no alerts makes nothing else of them. -/
theorem alertsAfter_of_not_writesAlerts {q : Query} (h : q.writesAlerts = false)
    (rows : List AlertRow) : q.alertsAfter rows = rows := by
  cases q <;> first | rfl | simp [writesAlerts] at h

end Query

namespace Store

theorem alerts_execute_insertAlert (s : Store) (a : Alert) :
    (s.execute (.insertAlert a)).2.alerts = Query.alertsAfter (.insertAlert a) s.alerts := by
  unfold execute insertAlert Query.alertsAfter
  by_cases h : s.alerts.any (·.id == a.id) <;> simp [h, written]

/-- An alert whose name no row has is entered after all others. -/
theorem answer_insertAlert {s : Store} {a : Alert} (h : ∀ r ∈ s.alerts, r.id ≠ a.id) :
    s.answer (.insertAlert a) = (.ok (), { s with alerts := s.alerts ++ [a.toRow] }) := by
  have hfree : s.alerts.any (·.id == a.id) = false := by simpa using h
  show written (.insertAlert a) s () (s.insertAlert a) = _
  unfold insertAlert
  rw [hfree]
  rfl

/-- An alert whose name is taken is not entered. -/
theorem answer_insertAlert_of_taken {s : Store} {a : Alert} (h : ∃ r ∈ s.alerts, r.id = a.id) :
    ∃ e, s.answer (.insertAlert a) = (.error e, s) := by
  have htaken : s.alerts.any (·.id == a.id) = true := by simpa using h
  refine ⟨Query.failed (.insertAlert a) (.taken .alerts "id"), ?_⟩
  show written (.insertAlert a) s () (s.insertAlert a) = _
  unfold insertAlert
  rw [htaken]
  rfl

theorem alerts_execute (s : Store) (q : Query) :
    (s.execute q).2.alerts = q.alertsAfter s.alerts := by
  cases q with
  | insertAlert a => exact alerts_execute_insertAlert s a
  | resolveAlert _ _ | acknowledgeAlert _ _ | deleteAlertsBefore _ => rfl
  | _ => exact (execute_agrees s _).alerts (by simp [Query.writes])

/-- **What a query makes of the table of alerts** depends on its rows alone. -/
theorem alerts_answer (s : Store) (q : Query) :
    (s.answer q).2.alerts = q.alertsAfter s.alerts := by
  unfold answer
  split
  · rename_i e hrefused
    cases q <;> first | rfl | simp [Query.refusal?] at hrefused
  · exact alerts_execute s q

end Store

/-! ## Open alerts -/

/-- A change that makes no row one of a kind adds none of that kind. -/
theorem length_filter_change_le {α : Type} {p : α → Bool} {f : α → α}
    (h : ∀ r, p (f r) = true → p r = true) (which : α → Bool) (rows : List α) :
    ((Store.change which f rows).filter p).length ≤ (rows.filter p).length := by
  rw [← List.countP_eq_length_filter, ← List.countP_eq_length_filter, Store.change,
    List.countP_map]
  refine List.countP_mono_left fun r _ hr => ?_
  rw [Function.comp_apply] at hr
  split at hr
  · exact h r hr
  · exact hr

/-- A change does not reach a column that it leaves alone. -/
theorem Store.map_change {α β : Type} {g : α → β} {f : α → α} {which : α → Bool}
    (h : ∀ r, which r = true → g (f r) = g r) (rows : List α) :
    (Store.change which f rows).map g = rows.map g := by
  rw [Store.change, List.map_map]
  refine List.map_congr_left fun r _ => ?_
  rw [Function.comp_apply]
  split
  · rename_i hw
    exact h r hw
  · rfl

theorem Store.nodup_map_change {α β : Type} {g : α → β} {f : α → α} {which : α → Bool}
    {rows : List α} (h : ∀ r, which r = true → g (f r) = g r) (hrows : (rows.map g).Nodup) :
    ((Store.change which f rows).map g).Nodup := by
  rw [Store.map_change h]
  exact hrows

theorem Store.mem_map_change {α β : Type} {g : α → β} {f : α → α} {which : α → Bool}
    {rows : List α} {b : β} (h : ∀ r, which r = true → g (f r) = g r) (hb : b ∈ rows.map g) :
    b ∈ (Store.change which f rows).map g := by
  rw [Store.map_change h]
  exact hb

/-- A change does not reach what it leaves alone of the rows of a kind. -/
theorem Store.filter_change {α : Type} {p : α → Bool} {f : α → α} (h : ∀ r, p (f r) = p r)
    (which : α → Bool) (rows : List α) :
    (Store.change which f rows).filter p = Store.change which f (rows.filter p) := by
  have hp : ∀ r, p (if which r then f r else r) = p r := by
    intro r
    split
    · exact h r
    · rfl
  rw [Store.change, Store.change, List.filter_map]
  congr 2
  exact funext hp

/-- Every row after a change is one from before, or was made by the change. -/
theorem Store.of_mem_change {α : Type} {p : α → Prop} {which : α → Bool} {f : α → α}
    {rows : List α} (h : ∀ r ∈ rows, p r) (hf : ∀ r, p r → p (f r)) :
    ∀ r ∈ Store.change which f rows, p r := by
  intro r' hr'
  obtain ⟨r, hr, rfl⟩ := List.mem_map.1 hr'
  split
  · exact hf r (h r hr)
  · exact h r hr

theorem Store.of_mem_append {α : Type} {p : α → Prop} {rows : List α} (h : ∀ r ∈ rows, p r)
    {r' : α} (hr' : p r') : ∀ r ∈ rows ++ [r'], p r := by
  intro r hr
  rcases List.mem_append.1 hr with hr | hr
  · exact h r hr
  · rw [List.mem_singleton.1 hr]
    exact hr'

/-- A change of no row is none. -/
theorem Store.change_eq_self {α : Type} {which : α → Bool} {rows : List α}
    (h : ∀ r ∈ rows, which r = false) (f : α → α) : Store.change which f rows = rows := by
  refine (List.map_congr_left fun r hr => ?_).trans (List.map_id rows)
  rw [h r hr]
  rfl

/-- A query that enters no alert gives no check another open one. -/
theorem length_filter_isOpenFor_alertsAfter_le {q : Query} (h : q.entersAlert = false)
    (checkId : String) (rows : List AlertRow) :
    ((q.alertsAfter rows).filter (isOpenFor checkId)).length ≤
      (rows.filter (isOpenFor checkId)).length := by
  cases q with
  | insertAlert a => simp [Query.entersAlert] at h
  | resolveAlert id time =>
    exact length_filter_change_le (fun r hr => by simp [isOpenFor_resolved] at hr) _ rows
  | acknowledgeAlert id time =>
    -- Whether a row is open does not hang on when it was acknowledged.
    exact length_filter_change_le (p := isOpenFor checkId) (f := acknowledged time) (fun _ hr => hr) _
      rows
  | deleteAlertsBefore cutoff => exact (List.filter_sublist.filter _).length_le
  | _ => exact Nat.le_refl _

/-- A change that leaves of every row something later than it. -/
theorem exists_earlier_of_mem_change {which : AlertRow → Bool} {f : AlertRow → AlertRow}
    (h : ∀ r, which r = true → r.Later (f r)) {rows : List AlertRow} {r' : AlertRow}
    (hr' : r' ∈ Store.change which f rows) : ∃ r ∈ rows, r.Later r' := by
  obtain ⟨r, hr, rfl⟩ := List.mem_map.1 hr'
  refine ⟨r, hr, ?_⟩
  split
  · rename_i hw
    exact h r hw
  · exact Later.refl r

/-- **Every row that a query leaves is a row from before**, if the query enters none. -/
theorem exists_earlier_of_mem_alertsAfter {q : Query} (h : q.entersAlert = false)
    {rows : List AlertRow} {r' : AlertRow} (hr' : r' ∈ q.alertsAfter rows) :
    ∃ r ∈ rows, r.Later r' := by
  cases q with
  | insertAlert a => simp [Query.entersAlert] at h
  | resolveAlert id time =>
    refine exists_earlier_of_mem_change (f := resolved time) (fun r hr => ⟨rfl, fun hc => ?_⟩) hr'
    simp [hc] at hr
  | acknowledgeAlert id time =>
    exact exists_earlier_of_mem_change (f := acknowledged time)
      (fun r _ => ⟨rfl, fun _ => rfl⟩) hr'
  | deleteAlertsBefore cutoff => exact ⟨r', (List.mem_filter.1 hr').1, Later.refl r'⟩
  | _ => exact ⟨r', hr', Later.refl r'⟩

/-- Once an alert is resolved, no row of its name is open. -/
theorem isActive_eq_false_of_mem_resolved {id : String} {time : Timestamp} {rows : List AlertRow}
    {r : AlertRow} (hr : r ∈ Query.alertsAfter (.resolveAlert id time) rows) (hid : r.id = id) :
    r.isActive = false := by
  obtain ⟨r₀, hr₀, rfl⟩ := List.mem_map.1 hr
  dsimp only at hid ⊢
  split
  · exact isActive_resolved time r₀
  · rename_i hw
    rw [if_neg hw] at hid
    simpa [hid] using hw

/-! ## Reading rows -/

namespace Store

/-- What one list has is matched by something in the other. -/
theorem exists_of_mem_forall₂ {α β : Type} {R : α → β → Prop} {as : List α} {bs : List β} {b : β}
    (h : List.Forall₂ R as bs) (hb : b ∈ bs) : ∃ a ∈ as, R a b := by
  induction h with
  | nil => cases hb
  | cons hr _ ih =>
    rcases List.mem_cons.1 hb with rfl | hb
    · exact ⟨_, List.mem_cons_self, hr⟩
    · obtain ⟨a, ha, hr⟩ := ih hb
      exact ⟨a, List.mem_cons_of_mem _ ha, hr⟩

/-- Rows are read without fault exactly if each of them shows an alert. -/
theorem readAlerts_eq_ok_iff {rows : List AlertRow} {as : List Alert} :
    readAlerts rows = .ok as ↔ List.Forall₂ AlertRow.Shows rows as := by
  induction rows generalizing as with
  | nil =>
    rw [List.forall₂_nil_left_iff]
    exact ⟨fun h => (Except.ok.inj h).symm, fun h => congrArg Except.ok h.symm⟩
  | cons r rest ih =>
    unfold readAlerts
    rw [List.forall₂_cons_left_iff]
    constructor
    · intro h
      cases ha : r.toAlert with
      | error tag => simp [ha] at h
      | ok a =>
        cases hrest : readAlerts rest with
        | error e => simp [ha, hrest, Except.map] at h
        | ok as₀ =>
          simp only [ha, hrest, Except.map, Except.ok.injEq] at h
          exact ⟨a, as₀, ha, ih.1 hrest, h.symm⟩
    · rintro ⟨a, as₀, ha, hrest, rfl⟩
      rw [show r.toAlert = .ok a from ha, ih.2 hrest]
      rfl

/-- Rows whose severities have names are read without fault, one by one. -/
theorem exists_readAlerts_eq_ok {rows : List AlertRow} (h : ∀ r ∈ rows, r.Readable) :
    ∃ as, readAlerts rows = .ok as ∧ List.Forall₂ AlertRow.Shows rows as := by
  simp only [readAlerts_eq_ok_iff, and_self]
  induction rows with
  | nil => exact ⟨[], .nil⟩
  | cons r rest ih =>
    obtain ⟨a, ha⟩ := (h r List.mem_cons_self).exists_toAlert
    obtain ⟨as, has⟩ := ih fun r' hr' => h r' (List.mem_cons_of_mem r hr')
    exact ⟨a :: as, .cons ha has⟩

/-! ## Looking up open alerts -/

/-- The row that the open alert of a check is read from. -/
def openRow? (s : Store) (checkId : String) : Option AlertRow :=
  (newestFirst AlertRow.triggeredAt (s.alerts.filter (isOpenFor checkId))).head?

variable {s : Store} {checkId : String}

theorem openRow?_eq_none : s.openRow? checkId = none ↔ s.alerts.filter (isOpenFor checkId) = [] :=
  head?_newestFirst_eq_none

/-- It is open, and as new as any open row of the check. -/
theorem of_openRow? {r : AlertRow} (h : s.openRow? checkId = some r) :
    (r ∈ s.alerts ∧ r.isOpenFor checkId = true) ∧
      ∀ r' ∈ s.alerts, r'.isOpenFor checkId = true → r'.triggeredAt ≤ r.triggeredAt := by
  obtain ⟨hr, hnewest⟩ := head?_newestFirst h
  exact ⟨List.mem_filter.1 hr, fun r' hr' hopen =>
    hnewest r' (List.mem_filter.2 ⟨hr', hopen⟩)⟩

/-- **The look-up of an open alert** answers with what that row shows, if there is one. -/
theorem answer_activeAlert (s : Store) (checkId : String) :
    (s.answer (.activeAlert checkId)).1 =
      match s.openRow? checkId with
      | none => .ok none
      | some r =>
        match r.toAlert with
        | .ok a => .ok (some a)
        | .error tag => .error (Query.failed (.activeAlert checkId) (.unknownSeverity tag)) := by
  show (readReply (.activeAlert checkId) s ((readAlerts ((newestFirst AlertRow.triggeredAt
    (s.alerts.filter (isOpenFor checkId))).take 1)).map List.head?)).1 = _
  unfold openRow?
  cases newestFirst AlertRow.triggeredAt (s.alerts.filter (isOpenFor checkId)) with
  | nil => rfl
  | cons r rest =>
    rw [List.take_succ_cons, List.take_zero, List.head?_cons]
    unfold readAlerts
    dsimp only
    cases r.toAlert <;> rfl

/-- A check for which none is found has no open alert. -/
theorem filter_isOpenFor_eq_nil (h : (s.answer (.activeAlert checkId)).1 = .ok none) :
    s.alerts.filter (isOpenFor checkId) = [] := by
  rw [answer_activeAlert] at h
  cases hrow : s.openRow? checkId with
  | none => exact openRow?_eq_none.1 hrow
  | some r =>
    rw [hrow] at h
    dsimp only at h
    split at h <;> cases h

/-- The alert that is found is shown by an open row of the check. -/
theorem exists_isOpenFor_of_answer {a : Alert}
    (h : (s.answer (.activeAlert checkId)).1 = .ok (some a)) :
    ∃ r ∈ s.alerts, r.isOpenFor checkId = true ∧ r.toAlert = .ok a := by
  rw [answer_activeAlert] at h
  cases hrow : s.openRow? checkId with
  | none =>
    rw [hrow] at h
    cases h
  | some r =>
    obtain ⟨⟨hr, hopen⟩, -⟩ := of_openRow? hrow
    rw [hrow] at h
    dsimp only at h
    split at h
    · rename_i hshows
      cases h
      exact ⟨r, hr, hopen, hshows⟩
    · cases h

/-- If all rows can be read, the look-up of an open alert is answered. -/
theorem exists_answer_activeAlert (h : ∀ r ∈ s.alerts, r.Readable) (checkId : String) :
    ∃ found, (s.answer (.activeAlert checkId)).1 = .ok found := by
  rw [answer_activeAlert]
  cases hrow : s.openRow? checkId with
  | none => exact ⟨none, rfl⟩
  | some r =>
    obtain ⟨a, ha⟩ := (h r (of_openRow? hrow).1.1).exists_toAlert
    refine ⟨some a, ?_⟩
    dsimp only
    rw [ha]

/-- A check without an open row has no open alert. -/
theorem answer_activeAlert_eq_none (h : s.alerts.filter (isOpenFor checkId) = []) :
    (s.answer (.activeAlert checkId)).1 = .ok none := by
  rw [answer_activeAlert, openRow?_eq_none.2 h]

/-- If all rows can be read, the look-up of the open alerts of a device is
answered, and finds some exactly if there are some. -/
theorem exists_answer_activeAlertsSince (h : ∀ r ∈ s.alerts, r.Readable)
    (deviceId : String) (since : Timestamp) :
    ∃ as : List Alert, (s.answer (.activeAlertsSince deviceId since)).1 = .ok as ∧
      (as = [] ↔ ∀ r ∈ s.alerts, r.deviceId = deviceId → r.resolvedAt = none →
        ¬since.toMillis ≤ r.triggeredAt) := by
  let rows := s.alerts.filter fun r =>
    r.deviceId == deviceId && r.isActive && since.toMillis ≤ r.triggeredAt
  have hrows : ∀ r ∈ newestFirst AlertRow.triggeredAt rows, r.Readable := fun r hr =>
    h r (List.mem_filter.1 (mem_newestFirst.1 hr)).1
  obtain ⟨as, has, hshown⟩ := exists_readAlerts_eq_ok hrows
  refine ⟨as, ?_, ?_⟩
  · show (readReply (.activeAlertsSince deviceId since) s
      (readAlerts (newestFirst AlertRow.triggeredAt rows))).1 = _
    rw [has]
    rfl
  · rw [← List.length_eq_zero_iff, ← hshown.length_eq, List.length_eq_zero_iff,
      List.eq_nil_iff_forall_not_mem]
    simp only [mem_newestFirst, rows, List.mem_filter, Bool.and_eq_true, beq_iff_eq,
      AlertRow.isActive, Option.isNone_iff_eq_none, decide_eq_true_eq, not_and, and_imp]

end Store

end NetWatch
