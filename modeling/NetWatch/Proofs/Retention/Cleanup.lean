/-
NetWatch.Proofs.Retention.Cleanup — what a cleanup deletes, and what it leaves
(`cleanup_expired`).

A cleanup looks at the clock once and goes by the moment that lies the retention
before. It leaves the results and the alerts that are not older than that, every
alert that is open, and all other tables (`Store.keptSince`,
`Retention.run_cleanup_of_sound`).

What is left by one moment and then by a later one is what is left by the later
one (`Store.keptSince_keptSince`): a cleanup makes up for those that were missed.
-/
import NetWatch.Retention
import NetWatch.Proofs.Script.Looking
import NetWatch.Proofs.Time.Millis

namespace NetWatch

/-! ## What is not older than a moment -/

namespace Store

/-- The results that were checked and the alerts that were resolved at a moment or later,
with all alerts that are open and the other tables. -/
def keptSince (s : Store) (cutoff : Timestamp) : Store :=
  { s with
    results := s.results.filter fun r => cutoff.toMillis ≤ r.checkedAt
    alerts := s.alerts.filter fun r => r.resolvedAt.all (cutoff.toMillis ≤ ·) }

theorem not_resultExpired (cutoff : Timestamp) (r : ResultRow) :
    (!resultExpired cutoff r) = decide (cutoff.toMillis ≤ r.checkedAt) := by
  rw [resultExpired, ← decide_not, decide_eq_decide]
  exact Int.not_lt

theorem not_alertExpired (cutoff : Timestamp) (r : AlertRow) :
    (!alertExpired cutoff r) = r.resolvedAt.all (cutoff.toMillis ≤ ·) := by
  unfold alertExpired
  cases r.resolvedAt with
  | none => rfl
  | some time =>
    show (!decide (time < cutoff.toMillis)) = decide (cutoff.toMillis ≤ time)
    rw [← decide_not, decide_eq_decide]
    exact Int.not_lt

/-- What is counted and what is left is all that there was. -/
theorem countP_add_length_filter_not {α : Type} (p : α → Bool) (rows : List α) :
    rows.countP p + (rows.filter (!p ·)).length = rows.length := by
  rw [List.countP_eq_length_filter, ← List.length_append]
  exact (List.filter_append_perm p rows).length_eq

variable {s : Store} {cutoff cutoff' : Timestamp}

theorem countP_resultExpired_add_length (s : Store) (cutoff : Timestamp) :
    s.results.countP (resultExpired cutoff) + (s.keptSince cutoff).results.length =
      s.results.length := by
  unfold keptSince
  simp only [← not_resultExpired]
  exact countP_add_length_filter_not _ _

theorem countP_alertExpired_add_length (s : Store) (cutoff : Timestamp) :
    s.alerts.countP (alertExpired cutoff) + (s.keptSince cutoff).alerts.length =
      s.alerts.length := by
  unfold keptSince
  simp only [← not_alertExpired]
  exact countP_add_length_filter_not _ _

/-- Nothing that is left is older. -/
theorem countP_resultExpired_keptSince (s : Store) (cutoff : Timestamp) :
    (s.keptSince cutoff).results.countP (resultExpired cutoff) = 0 := by
  simp [keptSince, resultExpired]

theorem countP_alertExpired_keptSince (s : Store) (cutoff : Timestamp) :
    (s.keptSince cutoff).alerts.countP (alertExpired cutoff) = 0 := by
  simp [keptSince, ← not_alertExpired]

/-- **What is left by a later moment** does not depend on what was left by an earlier one. -/
theorem keptSince_keptSince (h : cutoff.toMillis ≤ cutoff'.toMillis) :
    (s.keptSince cutoff).keptSince cutoff' = s.keptSince cutoff' := by
  have hlater : ∀ time : Int, cutoff'.toMillis ≤ time → cutoff.toMillis ≤ time :=
    fun time htime => Int.le_trans h htime
  unfold keptSince
  simp only [List.filter_filter]
  congr 1
  · refine List.filter_congr fun r _ => ?_
    simpa using hlater r.checkedAt
  · refine List.filter_congr fun r _ => ?_
    cases r.resolvedAt with
    | none => rfl
    | some time => simpa using hlater time

end Store

/-! ## Cleanups -/

namespace Retention

/-- What a cleanup does once the moment that it goes by is known. -/
def deleteBefore (cutoff : Timestamp) : Script (Except StoreError Report) := do
  match ← Script.query (.deleteResultsBefore cutoff) with
  | .error e => return .error e
  | .ok results =>
    match ← Script.query (.deleteAlertsBefore cutoff) with
    | .error e => return .error e
    | .ok alerts => return .ok ⟨results, alerts⟩

/-- A cleanup deletes what is older than the retention, if there is such a moment. -/
theorem run_cleanup (w : World) (retention : Duration) (st : Store) :
    (cleanup retention).run w st =
      match w.now.sub? retention with
      | some cutoff => (deleteBefore cutoff).run w st
      | none => ⟨none, st, [], []⟩ := by
  show Script.run w (Script.ago retention >>= deleteBefore) st = _
  unfold Script.ago
  rw [Script.clock_bind]
  simp only [Script.run]
  cases w.now.sub? retention <;> rfl

variable {w : World} {retention : Duration} {cutoff : Timestamp}

/-- **What a cleanup does**: it counts what is too old, and leaves the rest. -/
theorem run_cleanup_of_sound (hw : w.backend = .sound)
    (hcutoff : w.now.sub? retention = some cutoff) (s : Store) :
    (cleanup retention).run w s =
      ⟨some (.ok ⟨s.results.countP (Store.resultExpired cutoff),
        s.alerts.countP (Store.alertExpired cutoff)⟩), s.keptSince cutoff, [], []⟩ := by
  have hkept : { s with
      results := s.results.filter (!Store.resultExpired cutoff ·)
      alerts := s.alerts.filter (!Store.alertExpired cutoff ·) } = s.keptSince cutoff := by
    simp only [Store.not_resultExpired, Store.not_alertExpired, Store.keptSince]
  have hresults : s.answer (.deleteResultsBefore cutoff) =
    (.ok (s.results.countP (Store.resultExpired cutoff)),
      { s with results := s.results.filter (!Store.resultExpired cutoff ·) }) := rfl
  rw [run_cleanup, hcutoff, ← hkept]
  unfold deleteBefore
  simp only [Script.query_bind, Script.run, hw, Backend.sound, hresults]
  rfl

/-- **A cleanup deletes just what has expired.** It leaves every alert that is open and, as long as
the moment that it goes by is not in a leap second, all that is dated at that moment or later; its
report says how many rows went. Another cleanup at the same time deletes nothing. After one whose
time is not earlier, nothing tells whether the first took place; where the retention is a whole
number of milliseconds, their milliseconds are enough to compare the times by. Only a retention that
is negative, at a time in a leap second, could change that. -/
theorem deletes_exactly_expired (hw : w.backend = .sound)
    (hcutoff : w.now.sub? retention = some cutoff) (s : Store) :
    let t := (cleanup retention).run w s
    (t.store = s.keptSince cutoff ∧ t.events = [] ∧ t.requests = []) ∧
    (∃ report, t.result = some (.ok report) ∧
      report.results + t.store.results.length = s.results.length ∧
      report.alerts + t.store.alerts.length = s.alerts.length) ∧
    (∀ row ∈ s.alerts, row.resolvedAt = none → row ∈ t.store.alerts) ∧
    (cutoff.isLeap = false → ∀ time, cutoff ≤ time →
      (∀ row ∈ s.results, row.checkedAt = time.toMillis → row ∈ t.store.results) ∧
      ∀ row ∈ s.alerts, row.resolvedAt = some time.toMillis → row ∈ t.store.alerts) ∧
    (cleanup retention).run w t.store = ⟨some (.ok ⟨0, 0⟩), t.store, [], []⟩ ∧
    ∀ w' cutoff', w'.backend = .sound → w'.now.sub? retention = some cutoff' →
      (w.now.instant ≤ w'.now.instant ∨
        (retention.nanos % 1000000 = 0 ∧ w.now.toMillis ≤ w'.now.toMillis)) →
      0 ≤ retention.nanos ∨ (w.now.isLeap = false ∧ w'.now.isLeap = false) →
      ((cleanup retention).run w' t.store).store = ((cleanup retention).run w' s).store := by
  intro t
  have ht : t = ⟨_, s.keptSince cutoff, [], []⟩ := run_cleanup_of_sound hw hcutoff s
  rw [ht]
  refine ⟨⟨rfl, rfl, rfl⟩, ⟨_, rfl, s.countP_resultExpired_add_length cutoff,
    s.countP_alertExpired_add_length cutoff⟩, fun row hrow hopen => ?_,
    fun hleap time htime => ⟨fun row hrow hdated => ?_, fun row hrow hdated => ?_⟩, ?_,
    fun w' cutoff' hw' hcutoff' hlater hspan => ?_⟩
  · exact List.mem_filter.mpr ⟨hrow, by rw [hopen]; rfl⟩
  · have hkept := Timestamp.toMillis_le_of_le htime hleap
    exact List.mem_filter.mpr ⟨hrow, by simpa [hdated] using hkept⟩
  · have hkept := Timestamp.toMillis_le_of_le htime hleap
    exact List.mem_filter.mpr ⟨hrow, by simpa [hdated] using hkept⟩
  · rw [run_cleanup_of_sound hw hcutoff, Store.countP_resultExpired_keptSince,
      Store.countP_alertExpired_keptSince, Store.keptSince_keptSince (Int.le_refl _)]
  · have hback := Timestamp.instant_sub? hcutoff (hspan.imp_right And.left)
    have hback' := Timestamp.instant_sub? hcutoff' (hspan.imp_right And.right)
    have hearlier : cutoff.toMillis ≤ cutoff'.toMillis := by
      simp only [Timestamp.toMillis_eq_ediv] at hlater ⊢
      omega
    rw [run_cleanup_of_sound hw' hcutoff', run_cleanup_of_sound hw' hcutoff']
    exact Store.keptSince_keptSince hearlier

/-- Rows just before and just at the moment that a cleanup goes by. -/
theorem deletes_exactly_expired_at_edge :
    let w (now : Int) : World := ⟨.ofMillis now, .sound, fun _ => .unreachable⟩
    let result (id : Nat) (checkedAt : Int) : ResultRow :=
      ⟨id, "check-1", "device-1", false, 0, 1, some "timeout", checkedAt⟩
    let alert (id : String) (resolvedAt : Option Int) : AlertRow :=
      ⟨id, "check-1", "device-1", "warning", "timeout", 0, resolvedAt, none, 3, false, none⟩
    let s : Store := { Store.empty with
      results := [result 1 5999, result 2 6000]
      alerts := [alert "alert-1" (some 5999), alert "alert-2" (some 6000), alert "alert-3" none] }
    let retention : Duration := ⟨4000000000, by decide, by decide⟩
    let t := (cleanup retention).run (w 10000) s
    (t.store.results.map (·.id), t.store.alerts.map (·.id)) = ([2], ["alert-2", "alert-3"]) ∧
      (∃ report, t.result = some (.ok report) ∧ report.results = 1 ∧ report.alerts = 1) ∧
      (cleanup retention).run (w 10000) t.store = ⟨some (.ok ⟨0, 0⟩), t.store, [], []⟩ ∧
      ((cleanup retention).run (w 10001) t.store).store =
        ((cleanup retention).run (w 10001) s).store := by
  intro w result alert s retention
  have hcutoff : (w 10000).now.sub? retention = some (.ofMillis 6000) := by decide
  have hcutoff' : (w 10001).now.sub? retention = some (.ofMillis 6001) := by decide
  obtain ⟨⟨hstore, -, -⟩, ⟨report, hreport, hresults, halerts⟩, -, -, hagain, hmissed⟩ :=
    deletes_exactly_expired (w := w 10000) rfl hcutoff s
  have hids : ((s.keptSince (.ofMillis 6000)).results.map (·.id),
      (s.keptSince (.ofMillis 6000)).alerts.map (·.id)) = ([2], ["alert-2", "alert-3"]) := by
    have hsix : (Timestamp.ofMillis 6000).toMillis = 6000 := by decide
    simp [s, alert, result, Store.keptSince, hsix]
  have hlengths := congrArg (fun ids => (ids.1.length, ids.2.length)) hids
  simp only [List.length_map, List.length_cons, List.length_nil, Prod.mk.injEq] at hlengths
  rw [hstore, hlengths.1] at hresults
  rw [hstore, hlengths.2] at halerts
  refine ⟨?_, ⟨report, hreport, Nat.add_right_cancel hresults, Nat.add_right_cancel halerts⟩,
    hagain, ?_⟩
  · rw [hstore]
    exact hids
  · exact hmissed (w 10001) _ rfl hcutoff' (.inl (by decide)) (.inl (by decide))

end Retention

end NetWatch
