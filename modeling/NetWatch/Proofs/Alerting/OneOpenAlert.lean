/-
NetWatch.Proofs.Alerting.OneOpenAlert — no check has two open alerts (`get_active_alert`, then
`insert_alert`).

Nothing in the store forbids two open alerts of one check: that there are none
rests on the lock. `Run.atMostOneOpen` says so for every run, whoever else
resolves, acknowledges or purges alerts in the meantime.

What carries the proof is the window between the look-up and the entry. A call
at the stage `vacant` has seen that its check has no open alert, and that stays
true until it enters one: a query of somebody else enters none, and no other
call gets that far while the lock is held (`Site.Sound`).
-/
import NetWatch.Proofs.Alerting.Interleaving
import Mathlib

namespace NetWatch

open AlertRow (isOpenFor)

/-- Every check has at most one alert that is not resolved. -/
def Store.AtMostOneOpen (s : Store) : Prop :=
  ∀ checkId, (s.alerts.filter (isOpenFor checkId)).length ≤ 1

/-- A check has no alert that is not resolved. -/
def Store.NoneOpen (s : Store) (checkId : String) : Prop :=
  s.alerts.filter (isOpenFor checkId) = []

namespace Store

/-- A query that enters no alert opens none. -/
theorem AtMostOneOpen.answer {s : Store} (h : s.AtMostOneOpen) {q : Query}
    (hq : q.entersAlert = false) : (s.answer q).2.AtMostOneOpen := by
  intro checkId
  rw [alerts_answer]
  exact Nat.le_trans (length_filter_isOpenFor_alertsAfter_le hq checkId s.alerts) (h checkId)

theorem NoneOpen.answer {s : Store} {checkId : String} (h : s.NoneOpen checkId) {q : Query}
    (hq : q.entersAlert = false) : (s.answer q).2.NoneOpen checkId := by
  have hle := length_filter_isOpenFor_alertsAfter_le hq checkId s.alerts
  unfold NoneOpen at h ⊢
  rw [h] at hle
  rw [alerts_answer]
  exact List.eq_nil_of_length_eq_zero (Nat.le_zero.1 hle)

/-- Entering an alert of a check that has none open leaves it with one. -/
theorem AtMostOneOpen.enter {s : Store} (h : s.AtMostOneOpen) {a : Alert}
    (hnone : s.NoneOpen a.checkId) : (s.answer (.insertAlert a)).2.AtMostOneOpen := by
  intro checkId
  rw [alerts_answer, Query.alertsAfter]
  split
  · exact h checkId
  rw [List.filter_append, List.length_append]
  by_cases hid : a.checkId = checkId
  · rw [← hid, hnone]
    simpa using List.length_filter_le (isOpenFor a.checkId) [a.toRow]
  · have hother : [a.toRow].filter (isOpenFor checkId) = [] := by
      simp [isOpenFor, Alert.toRow, hid]
    rw [hother]
    exact h checkId

end Store

namespace Site

/-- What holds all the time: no check has two open alerts, and the check of a
call that is about to enter one has none. -/
def Sound (s : Site) : Prop :=
  s.store.AtMostOneOpen ∧
    s.Holds fun t stage => stage = .vacant → s.store.NoneOpen t.check.id

theorem sound_opened {rules : AlertRules} {streaks : Streaks} {store : Store}
    (h : store.AtMostOneOpen) : (opened rules streaks store).Sound :=
  ⟨h, .of_holder_eq_none rfl⟩

/-- The reply to a query of a call leaves things sound. -/
theorem Sound.answer {s : Site} (h : s.Sound) {t : Task} {q : Query}
    {next : q.Reply → Script (Option Alert)} (hs : s.holder = some (t, .ask q next)) :
    Sound { s with
      store := (s.store.answer q).2, holder := some (t, next (s.store.answer q).1) } := by
  obtain ⟨stage, hfollows, hvacant⟩ := h.2 t _ hs
  cases hfollows with
  | lookup hnext =>
    have hsame : (s.store.answer (.activeAlert t.check.id)).2 = s.store :=
      Store.answer_snd_of_isLookup s.store rfl
    refine ⟨by rw [hsame]; exact h.1, .of_follows rfl (hnext _) fun hstage => ?_⟩
    rw [hsame]
    exact Store.filter_isOpenFor_eq_nil (Task.of_afterLookup_eq_vacant hstage).1
  | look hq hnext =>
    rw [Store.answer_snd_of_isLookup s.store hq]
    exact ⟨h.1, .of_follows rfl (hnext _) hvacant⟩
  | enter hfail hok =>
    refine ⟨h.1.enter (hvacant rfl), ?_⟩
    cases hreply : (s.store.answer (.insertAlert _)).1 with
    | error e => exact .of_follows rfl (hfail e) nofun
    | ok _ => exact .of_follows rfl hok nofun
  | resolve hfail hok =>
    refine ⟨h.1.answer rfl, ?_⟩
    cases hreply : (s.store.answer (.resolveAlert _ _)).1 with
    | error e => exact .of_follows rfl (hfail e) nofun
    | ok _ => exact .of_follows rfl hok nofun

/-- A query of a call that fails leaves things sound. -/
theorem Sound.fail {s : Site} (h : s.Sound) {t : Task} {q : Query}
    {next : q.Reply → Script (Option Alert)} (hs : s.holder = some (t, .ask q next))
    (e : StoreError) : Sound { s with holder := some (t, next (.error e)) } := by
  obtain ⟨stage, hfollows, hvacant⟩ := h.2 t _ hs
  refine ⟨h.1, ?_⟩
  cases hfollows with
  | lookup hnext => exact .of_follows rfl (hnext _) nofun
  | look hq hnext => exact .of_follows rfl (hnext _) hvacant
  | enter hfail hok => exact .of_follows rfl (hfail e) nofun
  | resolve hfail hok => exact .of_follows rfl (hfail e) nofun

/-- **Every step leaves things sound.** -/
theorem Sound.step {s s' : Site} {act : Act} (h : s.Sound) (hstep : Step s act s') :
    s'.Sound := by
  cases hstep with
  | call check result => exact h
  | enter hfree hwaits hnew hplain =>
    exact ⟨h.1, .of_follows rfl (Task.follows_script _) nofun⟩
  | answer hs => exact h.answer hs
  | fail hs e => exact h.fail hs e
  | look hs now =>
    obtain ⟨stage, hfollows, hvacant⟩ := h.2 _ _ hs
    cases hfollows with
    | clock hnext => exact ⟨h.1, .of_follows rfl (hnext now) hvacant⟩
  | tell hs =>
    obtain ⟨stage, hfollows, hvacant⟩ := h.2 _ _ hs
    refine ⟨h.1, ?_⟩
    cases hfollows with
    | tellOpening hnext => exact .of_follows rfl hnext nofun
    | tellEnding hnext => exact .of_follows rfl hnext nofun
  | leave hs => exact ⟨h.1, .of_holder_eq_none rfl⟩
  | stop hs => exact ⟨h.1, .of_holder_eq_none rfl⟩
  | other hq =>
    refine ⟨h.1.answer hq, fun t rest hrest => ?_⟩
    obtain ⟨stage, hfollows, hvacant⟩ := h.2 t rest hrest
    exact ⟨stage, hfollows, fun hstage => (hvacant hstage).answer hq⟩
  | restart hfree hwaits rules => exact ⟨h.1, .of_holder_eq_none hfree⟩

end Site

namespace Run

theorem sound {s₀ s : Site} {acts : List Act} (h₀ : s₀.Sound) (hrun : Run s₀ acts s) :
    s.Sound := by
  induction hrun with
  | start => exact h₀
  | step _ hstep ih => exact ih.step hstep

/-- **At most one alert of every check is open**, in every state that any calls
of the alerter, any other queries and any restarts lead to. -/
theorem atMostOneOpen {rules : AlertRules} {streaks : Streaks} {store : Store}
    {acts : List Act} {s : Site} (hstart : store.AtMostOneOpen)
    (hrun : Run (.opened rules streaks store) acts s) : s.store.AtMostOneOpen :=
  (hrun.sound (Site.sound_opened hstart)).1

/-- Two outages of a check; somebody resolves the alert of the first in between. -/
theorem atMostOneOpen_of_two_outages :
    ∃ (acts : List Act) (s : Site),
      Run (.opened (.create 1 none false) .empty .empty) acts s ∧
        s.store.alerts.map (fun r => (r.id, r.isActive)) =
          [("alert-1", false), ("alert-2", true)] ∧
        s.store.AtMostOneOpen := by
  let check : Check := .create "check-1" "device-1" "http" "http://device-1/" .epoch
  let failure : CheckResult := .failed check "timeout" .epoch
  let w : World := ⟨.epoch, .sound, fun _ => .unreachable⟩
  let s₀ := Site.opened (.create 1 none false) .empty .empty
  let s₁ := s₀.afterCall w check failure "alert-1"
  let q := Query.resolveAlert "alert-1" .epoch
  let s₂ : Site := { s₁ with store := (s₁.store.answer q).2 }
  have hfirst : Run s₀ _ s₁ := Run.call rfl check failure rfl (by decide) (by decide)
  have hresolved : Run s₁ [.other q] s₂ := Run.single (.other s₁ rfl)
  have hsecond : Run s₂ _ (s₂.afterCall w check failure "alert-2") :=
    Run.call rfl check failure rfl (by decide) (by decide)
  have hrun := (hfirst.trans hresolved).trans hsecond
  have hstart : Store.empty.AtMostOneOpen := fun _ => Nat.zero_le 1
  refine ⟨_, _, hrun, ?_, hrun.atMostOneOpen hstart⟩
  dsimp only [s₂, s₁, s₀, q, w, failure, check]
  cbv

end Run

end NetWatch
