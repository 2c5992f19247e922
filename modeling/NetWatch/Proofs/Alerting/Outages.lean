/-
NetWatch.Proofs.Alerting.Outages — the alerter while the store fails now and then
(`process_result`).

Any of the queries of a call may fail, each for itself, and a query that fails
has no effect. What that leaves of a call is `Call.under_outages`: the streak is
counted all the same; without the look-up of the open alert nothing is done; a
look-up that fails keeps no alert quiet; one row is changed at most; and what is
told is what was written, and is told after it.

The statement is about every call at every site, whatever others do meanwhile.
That a call does come about under given outages of the store is `Call.alone`.
-/
import NetWatch.Proofs.Alerting.Tenure
import NetWatch.Proofs.Alerting.Lifecycle
import Mathlib

namespace NetWatch

open Script Alerting

/-! ## One row at most -/

/-- Whether two tables are the same but for one row, which may be missing from one of them. -/
def OneRowApart {α : Type} (rows rows' : List α) : Prop :=
  ∃ (before after : List α) (old new : Option α),
    rows = before ++ old.toList ++ after ∧ rows' = before ++ new.toList ++ after

namespace OneRowApart

variable {α : Type} {rows : List α}

theorem refl (rows : List α) : OneRowApart rows rows :=
  ⟨rows, [], none, none, by simp, by simp⟩

theorem concat (rows : List α) (r : α) : OneRowApart rows (rows ++ [r]) :=
  ⟨rows, [], none, some r, by simp, by simp⟩

theorem cons {rows' : List α} (r : α) (h : OneRowApart rows rows') :
    OneRowApart (r :: rows) (r :: rows') := by
  obtain ⟨before, after, old, new, rfl, rfl⟩ := h
  exact ⟨r :: before, after, old, new, rfl, rfl⟩

/-- A change of the rows of one name, where names are distinct. -/
theorem change {β : Type} {key : α → β} (h : (rows.map key).Nodup) {k : β} {which : α → Bool}
    (hwhich : ∀ r, which r = true → key r = k) (f : α → α) :
    OneRowApart rows (Store.change which f rows) := by
  induction rows with
  | nil => exact .refl []
  | cons r rest ih =>
    obtain ⟨hr, hrest⟩ := List.nodup_cons.1 h
    by_cases hw : which r = true
    · have hothers : ∀ r' ∈ rest, which r' = false := by
        intro r' hr'
        by_contra hw'
        have hkey : key r' = key r := by
          rw [hwhich r hw, hwhich r' (by simpa using hw')]
        exact hr (hkey ▸ List.mem_map_of_mem hr')
      refine ⟨[], rest, some r, some (f r), rfl, ?_⟩
      have hsame := Store.change_eq_self hothers f
      unfold Store.change at hsame ⊢
      rw [List.map_cons, if_pos hw, hsame]
      rfl
    · have hcons := (ih hrest).cons r
      unfold Store.change at hcons ⊢
      rwa [List.map_cons, if_neg hw]

end OneRowApart

namespace Store

variable {st : Store}

theorem DistinctAlerts.after (h : st.DistinctAlerts) (qs : List Query) :
    (st.after qs).DistinctAlerts := by
  induction qs generalizing st with
  | nil => exact h
  | cons q rest ih => exact ih (h.answer q)

/-- Whether two stores are the same but for one row of an alert. -/
structure OneAlertApart (s s' : Store) : Prop where
  alerts : OneRowApart s.alerts s'.alerts
  others : AgreesExcept [.alerts] s s'

theorem OneAlertApart.refl (s : Store) : s.OneAlertApart s :=
  ⟨.refl s.alerts, .refl _ s⟩

/-- **A query of the alerter changes the row of one alert at most.** -/
theorem oneAlertApart_answer (h : st.DistinctAlerts) {q : Query} (hq : q.isAlerting = true) :
    st.OneAlertApart (st.answer q).2 := by
  have hwrites : q.writes ⊆ [.alerts] := by
    cases q <;> first | exact List.Subset.refl _ | exact List.nil_subset _ | cases hq
  refine ⟨?_, (answer_agrees st q).mono hwrites⟩
  rw [alerts_answer]
  cases q with
  | insertAlert a =>
    simp only [Query.alertsAfter]
    split
    · exact .refl _
    · exact .concat _ _
  | resolveAlert id time =>
    refine .change h (k := id) (fun r hr => ?_) (AlertRow.resolved time)
    simp only [Bool.and_eq_true, beq_iff_eq] at hr
    exact hr.1
  | _ => first | exact .refl _ | cases hq

/-- Whether a store is what some queries make of another, but for the row of one alert that is
changed before them, between them or after them. -/
def BarelyAfter (s : Store) (qs : List Query) (s' : Store) : Prop :=
  ∃ (before after : List Query) (st : Store), qs = before ++ after ∧
    (s.after before).OneAlertApart st ∧ s' = st.after after

end Store

/-! ## Every call -/

/-- **A call changes the row of one alert at most**; all else is what others make of the store. -/
theorem Call.barelyAfter {s s' : Site} {t : Task} {acts : List Act} (h : Call s t acts s')
    (hkeys : s.store.DistinctAlerts) : s.store.BarelyAfter (othersIn acts) s'.store := by
  obtain ⟨s₁, s₂, hduring, hentered, hleft⟩ := h.exists_run
  obtain ⟨looks, last, hmoves, hlooks, hends⟩ := h.conduct.exists_ends
  rw [hleft]
  -- the ways to end with a query that writes
  have hwrote {q : Query} {reply : q.Reply} {rest : List Move} (hq : q.isAlerting = true)
      (hmoves : movesIn acts = looks ++ .asked q reply :: rest)
      (hrest : ∀ q reply, .asked q reply ∉ rest) :
      s.store.BarelyAfter (othersIn acts) s₂.store := by
    obtain ⟨earlier, act, later, rfl, hearlier, hact, hlater⟩ := exists_of_movesIn_eq hmoves
    obtain ⟨s₃, hafter, hreply⟩ := hduring.exists_of_asked hact fun q reply hm =>
      hlooks (.asked q reply) (hearlier ▸ hm)
    have hstore := hafter.store_eq_after fun q reply hm => absurd (hlater ▸ hm) (hrest q reply)
    rw [hentered] at hreply
    refine ⟨othersIn earlier, othersIn later, s₃.store, ?_, ?_, hstore⟩
    · rw [othersIn_append, othersIn_cons_of_move hact]
    · rcases hreply with hanswer | ⟨e, -, hfailed⟩
      · have hapart := Store.oneAlertApart_answer (hkeys.after (othersIn earlier)) hq
        rwa [hanswer] at hapart
      · rw [hfailed]
        exact .refl _
  cases hends with
  | silent =>
    rw [List.append_nil] at hmoves
    have hstore := (h.of_looks (hmoves ▸ hlooks)).2
    exact ⟨othersIn acts, [], _, by simp, .refl _, hleft ▸ hstore⟩
  | unresolved _ _ _ _ | unentered _ _ _ _ => exact hwrote rfl hmoves (by simp)
  | resolved _ _ _ _ | raised _ _ _ _ => exact hwrote rfl hmoves (by simp)

/-- **The alerter while the store fails now and then.** Whatever queries of a call fail, and
whatever others do meanwhile:
* a success removes the streak of the check and a failure adds one to it;
* if the open alert cannot be looked up, nothing else is done and nothing is told;
* an alert that is entered was weighed by all look-ups up to the first that found a reason, and
  those that failed found none;
* at most the row of one alert is changed;
* all but the end of the call is looking, and what is told at its end is what was written just
  before, if that did not fail. -/
theorem Call.under_outages {s s' : Site} {t : Task} {acts : List Act} (h : Call s t acts s') :
    ((t.result.success = true → ∀ entry ∈ s'.streaks.entries, entry.1 ≠ t.check.id) ∧
      (t.result.success = false →
        s'.streaks.count t.check.id = s.streaks.count t.check.id + 1) ∧
      ∀ c, c ≠ t.check.id → s'.streaks.count c = s.streaks.count c) ∧
    (∀ e, .asked (.activeAlert t.check.id) (.error e) ∈ movesIn acts →
      movesIn acts = [.asked (.activeAlert t.check.id) (.error e)] ∧ toldIn acts = [] ∧
        s'.store = s.store.after (othersIn acts)) ∧
    (∀ a reply, .asked (.insertAlert a) reply ∈ movesIn acts →
      ∃ now looks why rest, movesIn acts =
          .asked (.activeAlert t.check.id) (.ok none) :: .looked now ::
            (looks ++ .asked (.insertAlert a) reply :: rest) ∧
        a = t.alert now why ∧ Weighs t.rules t.check looks (some why) ∧
        Undeterred t.rules t.check looks why) ∧
    (s.store.DistinctAlerts → s.store.BarelyAfter (othersIn acts) s'.store) ∧
    ∃ looks last, movesIn acts = looks ++ last ∧ (∀ m ∈ looks, m.isLook = true) ∧
      t.Ends last := by
  have hstreaks := h.streaks_eq
  refine ⟨⟨fun hpassed entry hentry => ?_, fun hfailed => ?_, fun c hc => ?_⟩,
    fun e he => ?_, fun a reply ha => ?_, h.barelyAfter, h.conduct.exists_ends⟩
  · rw [hstreaks, Streaks.record, if_pos hpassed] at hentry
    simpa using (List.mem_filter.1 hentry).2
  · rw [hstreaks, hfailed]
    exact Streaks.count_fail_self _ _
  · rw [hstreaks, Streaks.count_record_of_ne _ hc]
  · have hmoves := h.conduct.eq_of_lost he
    refine ⟨hmoves, h.of_looks fun m hm => ?_⟩
    rw [hmoves] at hm
    rw [List.mem_singleton.1 hm]
    rfl
  · obtain ⟨now, looks, why, rest, hmoves, halert, hweighs⟩ := h.conduct.weighs_of_entry ha
    exact ⟨now, looks, why, rest, hmoves, halert, hweighs, hweighs.undeterred⟩

/-- A failure that raises an alert while windows, dependencies and devices are out of reach. -/
theorem Call.under_outages_of_three_tables :
    ∃ (s s' : Site) (t : Task) (acts : List Act) (a : Alert) (now : Timestamp), Call s t acts s' ∧
      (∃ e, .asked .enabledWindows (.error e) ∈ movesIn acts) ∧
      (∃ e, .asked (.blockingDevice t.check.id) (.error e) ∈ movesIn acts) ∧
      (∃ e, .asked (.device t.check.deviceId) (.error e) ∈ movesIn acts) ∧
      s'.streaks.count t.check.id = s.streaks.count t.check.id + 1 ∧
      a.suppressed = false ∧ .told (a.opening now) ∈ movesIn acts ∧
      s.store.BarelyAfter (othersIn acts) s'.store := by
  let check : Check := .create "check-1" "device-1" "http" "http://device-1/" .epoch
  let failure : CheckResult := .failed check "timeout" .epoch
  let w : World := ⟨.ofMillis 300000, .under [.missing .windows, .missing .dependencies,
    .missing .devices], fun _ => .unreachable⟩
  let s : Site := { Site.opened (.create 1 (Duration.ofSeconds? 300) true) .empty .empty with
    waiting := [(check, failure)] }
  let t := s.task check failure "alert-1"
  let a := t.alert w.now none
  have hwaits : s.waiting = [] ++ (check, failure) :: [] := rfl
  have hplain : PlainText "alert-1" := by decide
  have hnew : "alert-1" ∉ s.spent := List.not_mem_nil
  have hcall := Call.alone (w := w) (Backend.honest_under _) rfl hwaits hnew hplain
  have hmoves : movesIn ((t.script.moves w s.store).map (·.act t)) =
      [.asked (.activeAlert check.id) (.ok none), .looked w.now, .looked w.now,
        .asked .enabledWindows (.error (Query.failed .enabledWindows (.noTable .windows))),
        .asked (.blockingDevice check.id)
          (.error (Query.failed (.blockingDevice check.id) (.noTable .dependencies))),
        .asked (.device check.deviceId)
          (.error (Query.failed (.device check.deviceId) (.noTable .devices))),
        .asked (.insertAlert a) (.ok ()), .looked w.now, .told (a.opening w.now)] := by
    rw [movesIn_map_act]
    dsimp only [a, t, s, w, check, failure]
    cbv
  obtain ⟨⟨-, hcounted, -⟩, -, -, hrows, -⟩ := under_outages hcall
  refine ⟨s, _, t, _, a, w.now, hcall, ⟨Query.failed .enabledWindows (.noTable .windows), ?_⟩,
    ⟨Query.failed (.blockingDevice check.id) (.noTable .dependencies), ?_⟩,
    ⟨Query.failed (.device check.deviceId) (.noTable .devices), ?_⟩, hcounted rfl, rfl, ?_,
    hrows List.nodup_nil⟩ <;> rw [hmoves] <;> simp [t, Site.task]

end NetWatch
