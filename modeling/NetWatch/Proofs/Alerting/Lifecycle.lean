/-
NetWatch.Proofs.Alerting.Lifecycle — what can become of an alert in the store (`resolve_alert`,
`acknowledge_alert`, `delete_old_alerts`).

The row of an alert is written once. Afterwards it may be resolved, which is
final, and acknowledged, by a query of that name alone; nothing else about it
changes. It goes only when what was resolved before some moment is deleted, and
only if it was: a row that is open stays, whatever is asked of the store.

A query does one of two things to a row (`Query.row_alertsAfter`), and so does
whatever else the monitor is asked to do (`Monitor.row_afterErrand`).
`Monitor.alert_lifecycle` says it of any number of errands, one after the
other: of queries, of results that are processed, and of cleanups, each of which may
fail halfway.
-/
import NetWatch.Execution
import NetWatch.Proofs.Retention.Cleanup
import NetWatch.Proofs.Script.Asking
import NetWatch.Proofs.Store.Tables
import Mathlib

namespace NetWatch

/-! ## Rows under a query -/

/-- No two rows of alerts have one name. -/
def Store.DistinctAlerts (s : Store) : Prop :=
  (s.alerts.map (·.id)).Nodup

/-- The row of an alert is still there, and what became of it. Whether the alert
may have been acknowledged in the meantime is given. -/
def Store.Retains (s : Store) (r : AlertRow) (acknowledged : Prop) : Prop :=
  ∃ r' ∈ s.alerts, r.Later r' ∧ (r'.acknowledgedAt = r.acknowledgedAt ∨ acknowledged)

namespace Query

/-- The alert that a query acknowledges, if it acknowledges one. -/
def acknowledges? : Query → Option String
  | .acknowledgeAlert id _ => some id
  | _ => none

/-- The moment such that a query deletes what was resolved before it, if it deletes alerts. -/
def purgesBefore? : Query → Option Timestamp
  | .deleteAlertsBefore cutoff => some cutoff
  | _ => none

/-- The calls of the alerter neither acknowledge nor delete alerts. -/
theorem spares_of_isAlerting {q : Query} (h : q.isAlerting = true) :
    q.acknowledges? = none ∧ q.purgesBefore? = none := by
  cases q <;> first | exact ⟨rfl, rfl⟩ | cases h

/-- **What a query does to the row of an alert**: it keeps the row, or deletes it
because it was resolved long enough ago. -/
theorem row_alertsAfter (q : Query) {s s' : Store} (hs : s'.alerts = q.alertsAfter s.alerts)
    {r : AlertRow} (hr : r ∈ s.alerts) :
    s'.Retains r (q.acknowledges? = some r.id) ∨
      ∃ cutoff, q.purgesBefore? = some cutoff ∧ Store.alertExpired cutoff r = true := by
  have hkept : r ∈ s'.alerts → s'.Retains r (q.acknowledges? = some r.id) :=
    fun hr' => ⟨r, hr', .refl r, .inl rfl⟩
  cases q with
  | insertAlert a =>
    refine .inl (hkept ?_)
    rw [hs]
    show r ∈ if s.alerts.any (·.id == a.id) then s.alerts else s.alerts ++ [a.toRow]
    split
    · exact hr
    · exact List.mem_append_left _ hr
  | resolveAlert id time =>
    left
    unfold Store.Retains
    rw [hs]
    refine ⟨_, List.mem_map_of_mem hr, ?_⟩
    dsimp only
    split
    · rename_i hw
      exact ⟨⟨rfl, fun hclosed => by simp [hclosed] at hw⟩, .inl rfl⟩
    · exact ⟨.refl r, .inl rfl⟩
  | acknowledgeAlert id time =>
    left
    unfold Store.Retains
    rw [hs]
    refine ⟨_, List.mem_map_of_mem hr, ?_⟩
    dsimp only
    split
    · rename_i hw
      exact ⟨⟨rfl, fun _ => rfl⟩, .inr (congrArg some (beq_iff_eq.1 hw).symm)⟩
    · exact ⟨.refl r, .inl rfl⟩
  | deleteAlertsBefore cutoff =>
    cases hexpired : Store.alertExpired cutoff r with
    | true => exact .inr ⟨cutoff, rfl, hexpired⟩
    | false =>
      refine .inl (hkept ?_)
      rw [hs]
      exact List.mem_filter.2 ⟨hr, by simp [hexpired]⟩
  | _ => exact .inl (hkept (hs.symm ▸ hr))

/-- A query that deletes alerts leaves no row that was resolved before the moment it names. -/
theorem not_expired_of_mem {q : Query} {cutoff : Timestamp} (h : q.purgesBefore? = some cutoff)
    {rows : List AlertRow} {r : AlertRow} (hr : r ∈ q.alertsAfter rows) :
    r ∈ rows ∧ Store.alertExpired cutoff r = false := by
  cases q with
  | deleteAlertsBefore c =>
    cases h
    exact ⟨(List.mem_filter.1 hr).1, by simpa using (List.mem_filter.1 hr).2⟩
  | _ => cases h

end Query

namespace Store

variable {s : Store}

/-- A query leaves the names of alerts distinct. -/
theorem DistinctAlerts.answer (h : s.DistinctAlerts) (q : Query) :
    (s.answer q).2.DistinctAlerts := by
  unfold DistinctAlerts at h ⊢
  rw [alerts_answer]
  exact Query.nodup_alertsAfter h q

/-- A deleted row leaves none of its name behind. -/
theorem DistinctAlerts.none_of_expired (h : s.DistinctAlerts) {q : Query} {cutoff : Timestamp}
    (hq : q.purgesBefore? = some cutoff) {r : AlertRow} (hr : r ∈ s.alerts)
    (hexpired : alertExpired cutoff r = true) : ∀ r' ∈ (s.answer q).2.alerts, r'.id ≠ r.id := by
  intro r' hr' hid
  rw [alerts_answer] at hr'
  obtain ⟨hmem, hstays⟩ := Query.not_expired_of_mem hq hr'
  rw [List.inj_on_of_nodup_map h hmem hr hid, hexpired] at hstays
  cases hstays

/-- What is retained twice is retained all the while. -/
theorem Retains.trans {s' : Store} {r r' : AlertRow} {p q p' : Prop} (hr : r.Later r')
    (hack : r'.acknowledgedAt = r.acknowledgedAt ∨ p) (h : s'.Retains r' q)
    (hp : p → p') (hq : q → p') : s'.Retains r p' := by
  obtain ⟨r'', hr'', hlater, hack'⟩ := h
  refine ⟨r'', hr'', hr.trans hlater, ?_⟩
  rcases hack' with heq | hack'
  · rw [heq]
    exact hack.imp_right hp
  · exact .inr (hq hack')

end Store

/-! ## Errands -/

/-- What the monitor can be asked to do with alerts. -/
inductive Work where
  | query (q : Query)
  | process (check : Check) (result : CheckResult)
  | cleanup (retention : Duration)

/-- Something that the monitor is asked to do, and the world in which it does it:
at any time, with a store that may fail. -/
structure Errand where
  world : World
  work : Work
  honest : world.backend.Honest

namespace Errand

/-- An errand acknowledges the alert of a name. -/
def Acknowledges (e : Errand) (id : String) : Prop :=
  ∃ time, e.work = .query (.acknowledgeAlert id time)

/-- An errand deletes the alerts that were resolved before a moment. -/
def PurgesBefore (e : Errand) (cutoff : Timestamp) : Prop :=
  e.work = .query (.deleteAlertsBefore cutoff) ∨
    ∃ retention, e.work = .cleanup retention ∧ e.world.now.sub? retention = some cutoff

end Errand

namespace Monitor

variable {m : Monitor} {r : AlertRow}

/-- The monitor after an errand. -/
def afterErrand (m : Monitor) (e : Errand) : Monitor :=
  match e.work with
  | .query q => (m.perform e.world (Script.query q)).monitor
  | .process check result => (m.process e.world check result).monitor
  | .cleanup retention => (m.perform e.world (Retention.cleanup retention)).monitor

/-- The monitor after errands, one after the other. -/
def afterErrands (m : Monitor) (es : List Errand) : Monitor :=
  es.foldl afterErrand m

theorem afterErrands_snoc (m : Monitor) (es : List Errand) (e : Errand) :
    m.afterErrands (es ++ [e]) = (m.afterErrands es).afterErrand e :=
  List.foldl_concat ..

end Monitor

/-! ### The scripts of errands -/

namespace Script

variable {α : Type} {w : World} {s : Script α} {st : Store} {r : AlertRow}

/-- Whatever a script does, the names of alerts stay distinct. -/
theorem distinctAlerts_run (hw : w.backend.Honest) (s : Script α) (h : st.DistinctAlerts) :
    (s.run w st).store.DistinctAlerts :=
  (AsksOnly.any s).run_keeps hw (fun q _ _ h => h.answer q) h

/-- A script that neither acknowledges nor deletes alerts retains every row. -/
theorem retains_run (hw : w.backend.Honest)
    (hs : s.AsksOnly fun q => q.acknowledges? = none ∧ q.purgesBefore? = none)
    (hr : r ∈ st.alerts) : (s.run w st).store.Retains r False := by
  refine hs.run_keeps hw (I := fun st => st.Retains r False) (fun q st hq h => ?_)
    ⟨r, hr, .refl r, .inl rfl⟩
  obtain ⟨r', hr', hlater, hack⟩ := h
  rcases q.row_alertsAfter (st.alerts_answer q) hr' with hkept | ⟨cutoff, hpurges, -⟩
  · exact .trans hlater hack hkept id (by simp [hq.1])
  · rw [hq.2] at hpurges
    cases hpurges

/-- A script that does no more to alerts than to delete those that were resolved
before some moment keeps a row as it is, or deletes it for that reason. -/
theorem mem_or_expired_run (hw : w.backend.Honest) {cutoff : Timestamp}
    (hs : s.AsksOnly fun q => q.writesAlerts = false ∨ q = .deleteAlertsBefore cutoff)
    (hkeys : st.DistinctAlerts) (hr : r ∈ st.alerts) :
    r ∈ (s.run w st).store.alerts ∨
      Store.alertExpired cutoff r = true ∧ ∀ r' ∈ (s.run w st).store.alerts, r'.id ≠ r.id := by
  have h := hs.run_keeps hw
    (I := fun st => st.DistinctAlerts ∧ (r ∈ st.alerts ∨
      Store.alertExpired cutoff r = true ∧ ∀ r' ∈ st.alerts, r'.id ≠ r.id))
    (fun q st hq h => ⟨h.1.answer q, ?_⟩) ⟨hkeys, .inl hr⟩
  · exact h.2
  obtain ⟨hkeys, hr⟩ := h
  rcases hq with hq | rfl
  · rw [st.alerts_answer, Query.alertsAfter_of_not_writesAlerts hq]
    exact hr
  · rcases hr with hr | ⟨hexpired, hnone⟩
    · cases hexpired : Store.alertExpired cutoff r with
      | true => exact .inr ⟨rfl, hkeys.none_of_expired rfl hr hexpired⟩
      | false =>
        refine .inl ?_
        rw [st.alerts_answer]
        exact List.mem_filter.2 ⟨hr, by simp [hexpired]⟩
    · refine .inr ⟨hexpired, fun r' hr' => hnone r' ?_⟩
      rw [st.alerts_answer] at hr'
      exact (Query.not_expired_of_mem rfl hr').1

end Script

namespace Retention

theorem asksOnly_deleteBefore (cutoff : Timestamp) :
    (deleteBefore cutoff).AsksOnly
      fun q => q.writesAlerts = false ∨ q = .deleteAlertsBefore cutoff := by
  refine .bind (.query (.inl rfl)) fun r => ?_
  split
  · trivial
  · refine .bind (.query (.inr rfl)) fun r => ?_
    split <;> trivial

end Retention

namespace Monitor

variable {m : Monitor} {e : Errand} {r : AlertRow}

/-- An errand leaves the names of alerts distinct. -/
theorem distinctAlerts_afterErrand (h : m.store.DistinctAlerts) (e : Errand) :
    (m.afterErrand e).store.DistinctAlerts := by
  unfold afterErrand
  split <;> exact Script.distinctAlerts_run e.honest _ h

theorem distinctAlerts_afterErrands (h : m.store.DistinctAlerts) (es : List Errand) :
    (m.afterErrands es).store.DistinctAlerts := by
  induction es generalizing m with
  | nil => exact h
  | cons e rest ih => exact ih (distinctAlerts_afterErrand h e)

/-- **What an errand does to the row of an alert**: it keeps the row, or deletes it
because it was resolved long enough ago. -/
theorem row_afterErrand (hkeys : m.store.DistinctAlerts) (hr : r ∈ m.store.alerts) (e : Errand) :
    (m.afterErrand e).store.Retains r (e.Acknowledges r.id) ∨
      ∃ cutoff, e.PurgesBefore cutoff ∧ Store.alertExpired cutoff r = true ∧
        ∀ r' ∈ (m.afterErrand e).store.alerts, r'.id ≠ r.id := by
  obtain ⟨w, work, hw⟩ := e
  cases work with
  | query q =>
    rcases hw q m.store with hanswer | ⟨error, hanswer⟩
    · have hstore : (m.afterErrand ⟨w, .query q, hw⟩).store = (m.store.answer q).2 :=
        congrArg Prod.snd hanswer
      rw [hstore]
      rcases q.row_alertsAfter (m.store.alerts_answer q) hr with hkept | ⟨cutoff, hpurges, hexp⟩
      · refine .inl (.trans (.refl r) (.inl rfl) hkept id fun hack => ?_)
        cases q <;> cases hack
        exact ⟨_, rfl⟩
      · refine .inr ⟨cutoff, .inl ?_, hexp, hkeys.none_of_expired hpurges hr hexp⟩
        cases q <;> cases hpurges
        rfl
    · have hstore : (m.afterErrand ⟨w, .query q, hw⟩).store = m.store :=
        congrArg Prod.snd hanswer
      rw [hstore]
      exact .inl ⟨r, hr, .refl r, .inl rfl⟩
  | process check result =>
    let t : Task := ⟨m.rules, m.streaks.record check.id result.success, check, result, m.names.next⟩
    have hkept : (t.script.run w m.store).store.Retains r False :=
      Script.retains_run hw (t.asksOnly_script.mono fun q => Query.spares_of_isAlerting) hr
    exact .inl (.trans (.refl r) (.inl rfl) hkept id False.elim)
  | cleanup retention =>
    show ((Retention.cleanup retention).run w m.store).store.Retains r _ ∨
      ∃ cutoff, _ ∧ _ ∧ ∀ r' ∈ ((Retention.cleanup retention).run w m.store).store.alerts, _
    rw [Retention.run_cleanup]
    cases hcutoff : w.now.sub? retention with
    | none => exact .inl ⟨r, hr, .refl r, .inl rfl⟩
    | some cutoff =>
      rcases Script.mem_or_expired_run hw (Retention.asksOnly_deleteBefore cutoff) hkeys hr with
        hmem | ⟨hexp, hnone⟩
      · exact .inl ⟨r, hmem, .refl r, .inl rfl⟩
      · exact .inr ⟨cutoff, .inr ⟨retention, rfl, hcutoff⟩, hexp, hnone⟩

/-! ## Whole runs -/

/-- **The life of an alert.** From one moment of a run of errands to a later one
its row stays, and is then the same but for being resolved, which is final, and
acknowledged, by an errand that does so; or the row was deleted in between,
by an errand that deletes what was resolved before some moment, and it was
resolved before then. -/
theorem alert_lifecycle (hkeys : m.store.DistinctAlerts) (earlier es : List Errand)
    (hr : r ∈ (m.afterErrands earlier).store.alerts) :
    (m.afterErrands (earlier ++ es)).store.DistinctAlerts ∧
      ((m.afterErrands (earlier ++ es)).store.Retains r (∃ e ∈ es, e.Acknowledges r.id) ∨
        ∃ before e after cutoff r', es = before ++ e :: after ∧ e.PurgesBefore cutoff ∧
          r' ∈ (m.afterErrands (earlier ++ before)).store.alerts ∧ r.Later r' ∧
          (∃ t, r'.resolvedAt = some t ∧ t < cutoff.toMillis) ∧
          ∀ r'' ∈ (m.afterErrands (earlier ++ (before ++ [e]))).store.alerts, r''.id ≠ r.id) := by
  refine ⟨distinctAlerts_afterErrands hkeys _, ?_⟩
  induction es using List.reverseRecOn with
  | nil => exact .inl ⟨r, by simpa using hr, .refl r, .inl rfl⟩
  | append_singleton es e ih =>
    rcases ih with ⟨r', hr', hlater, hack⟩ | ⟨before, e', after, cutoff, r', rfl, hleft⟩
    · have hkeys' := distinctAlerts_afterErrands hkeys (earlier ++ es)
      rcases row_afterErrand hkeys' hr' e with hkept | ⟨cutoff, hpurges, hexpired, hnone⟩
      · refine .inl ?_
        rw [← List.append_assoc, afterErrands_snoc]
        refine .trans hlater hack hkept ?_ fun h => ⟨e, by simp, hlater.id_eq ▸ h⟩
        rintro ⟨e', he', h⟩
        exact ⟨e', by simp [he'], h⟩
      · obtain ⟨t, ht, hlt⟩ := (Option.any_eq_true _ _).1 hexpired
        refine .inr ⟨es, e, [], cutoff, r', rfl, hpurges, hr', hlater,
          ⟨t, ht, of_decide_eq_true hlt⟩, ?_⟩
        rw [← List.append_assoc, afterErrands_snoc, ← hlater.id_eq]
        exact hnone
    · exact .inr ⟨before, e', after ++ [e], cutoff, r', by simp, hleft⟩

/-- An alert that is cleaned up once it is resolved. A cleanup before that and one
that fails leave it where it is. -/
theorem alert_lifecycle_of_cleaned_up :
    ∃ (m : Monitor) (earlier es : List Errand) (r : AlertRow),
      m.store.DistinctAlerts ∧ r ∈ (m.afterErrands earlier).store.alerts ∧
        (m.afterErrands (earlier ++ es)).store.alerts = [] ∧
        ∃ before e after cutoff r', es = before ++ e :: after ∧ e.PurgesBefore cutoff ∧
          r' ∈ (m.afterErrands (earlier ++ before)).store.alerts ∧ r.Later r' ∧
          ∃ t, r'.resolvedAt = some t ∧ t < cutoff.toMillis := by
  let check : Check := .create "check-1" "device-1" "http" "http://device-1/" .epoch
  let errand (ms : Int) (outages : List Outage) (work : Work) : Errand :=
    ⟨⟨.ofMillis ms, .under outages, fun _ => .unreachable⟩, work, Backend.honest_under outages⟩
  let m : Monitor := ⟨.create 1 none false, .empty, .empty, ⟨fun _ => "alert-1", 0⟩⟩
  let earlier := [errand 0 [] (.process check (.failed check "timeout" .epoch))]
  let retention : Duration := ⟨1000000000, by decide, by decide⟩
  let es := [errand 5000 [] (.cleanup retention),
    errand 6000 [] (.process check (.passed check 1 .epoch)),
    errand 9000 [.missing .alerts] (.cleanup retention), errand 9000 [] (.cleanup retention)]
  have hkeys : m.store.DistinctAlerts := List.nodup_nil
  have hrow : (m.afterErrands earlier).store.alerts.length = 1 := by
    dsimp only [earlier, m, errand, check]
    cbv
  have hgone : (m.afterErrands (earlier ++ es)).store.alerts = [] := by
    dsimp only [earlier, es, m, errand, check, retention]
    cbv
  obtain ⟨r, hr⟩ := List.length_eq_one_iff.1 hrow
  have hmem : r ∈ (m.afterErrands earlier).store.alerts := by simp [hr]
  refine ⟨m, earlier, es, r, hkeys, hmem, hgone, ?_⟩
  rcases (alert_lifecycle hkeys earlier es hmem).2 with ⟨r', hr', -⟩ | hleft
  · rw [hgone] at hr'
    cases hr'
  · obtain ⟨before, e, after, cutoff, r', hes, hpurges, hr', hlater, hresolved, -⟩ := hleft
    exact ⟨before, e, after, cutoff, r', hes, hpurges, hr', hlater, hresolved⟩

end Monitor

end NetWatch
