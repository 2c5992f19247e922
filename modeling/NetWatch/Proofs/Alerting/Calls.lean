/-
NetWatch.Proofs.Alerting.Calls — what processing a result comes to (`process_result`).

A call whose store answers soundly ends in one of five ways. A failure below
the threshold does nothing, and neither does one whose check has an open alert
or a success whose check has none. A failure that is due and whose check has no
open alert enters one and tells of it; a success whose check has an open alert
resolves it and tells of that. There is one lemma for each of them, about the
whole trace of the call.
-/
import NetWatch.Execution
import NetWatch.Proofs.Alerting.Protocol
import NetWatch.Proofs.Store.AlertTable

namespace NetWatch

open Script

/-- A script that only looks hands its result on, where the store answers soundly. -/
theorem Script.OnlyLooks.run_bind {α β : Type} {w : World} (hw : w.backend = .sound)
    {s : Script α} (hs : OnlyLooks s) {f : α → Script β} {st : Store} {a : α}
    (ha : (s.run w st).result = some a) : (s >>= f).run w st = (f a).run w st := by
  induction s with
  | done b =>
    cases ha
    rfl
  | abort => cases ha
  | ask q next ih =>
    simp only [Script.run, hw, Backend.sound, Store.answer_snd_of_isLookup st hs.1] at ha
    rw [ask_bind]
    simp only [Script.run, hw, Backend.sound, Store.answer_snd_of_isLookup st hs.1]
    exact ih _ (hs.2 _) ha
  | clock next ih => exact ih _ (hs _) ha
  | publish e next ih => exact hs.elim
  | send r next ih => exact hs.elim

namespace Alerting

variable {w : World} {s : Store} {rules : AlertRules} {check : Check} {result : CheckResult}
  {streak : UInt32} {id : String} {a : Alert}

/-- A failure below the threshold does nothing. -/
theorem run_onFailure_of_lt (h : streak < rules.threshold) :
    (onFailure rules check result streak id).run w s = ⟨some none, s, [], []⟩ := by
  unfold onFailure
  rw [if_pos h]
  rfl

/-- A failure does nothing unless its check is found to have no open alert. -/
theorem run_onFailure_of_ne (hw : w.backend = .sound)
    (hne : (s.answer (.activeAlert check.id)).1 ≠ .ok none) :
    (onFailure rules check result streak id).run w s = ⟨some none, s, [], []⟩ := by
  by_cases h : streak < rules.threshold
  · exact run_onFailure_of_lt h
  · unfold onFailure
    rw [if_neg h, query_bind]
    simp only [Script.run, hw, Backend.sound]
    rw [Store.answer_snd_of_isLookup s rfl]
    rcases hfound : (s.answer (.activeAlert check.id)).1 with e | _ | a
    · rfl
    · exact absurd hfound hne
    · rfl

/-- A failure whose check has an open alert does nothing. -/
theorem run_onFailure_of_open (hw : w.backend = .sound)
    (hopen : (s.answer (.activeAlert check.id)).1 = .ok (some a)) :
    (onFailure rules check result streak id).run w s = ⟨some none, s, [], []⟩ := by
  refine run_onFailure_of_ne hw fun hnone => ?_
  cases hopen.symm.trans hnone

/-- A failure that is due goes on to raise an alert, if its check has none open. -/
theorem run_onFailure_of_due (hw : w.backend = .sound) (hdue : rules.threshold ≤ streak)
    (hnone : (s.answer (.activeAlert check.id)).1 = .ok none) :
    (onFailure rules check result streak id).run w s =
      (raise rules check result streak id).run w s := by
  unfold onFailure
  rw [if_neg (UInt32.not_lt.2 hdue), query_bind]
  simp only [Script.run, hw, Backend.sound, hnone]
  rw [Store.answer_snd_of_isLookup s rfl]

/-- Raising an alert looks for what keeps it quiet, enters it, and tells of it
once it is entered. -/
theorem run_raise (hw : w.backend = .sound) {why : Option Suppression}
    (hwhy : ((suppression rules check).run w s).result = some why) :
    let a := newAlert rules check result streak id w.now why
    let entry := s.answer (.insertAlert a)
    (raise rules check result streak id).run w s =
      match entry.1 with
      | .error _ => ⟨some none, entry.2, [], []⟩
      | .ok _ => ⟨some (some a), entry.2, [a.opening w.now], []⟩ := by
  intro a entry
  unfold raise
  rw [now_bind]
  show ((suppression rules check) >>= _).run w s = _
  rw [(onlyLooks_suppression rules check).run_bind hw hwhy, query_bind]
  show (Script.run w (Script.ask (.insertAlert a) _) s) = _
  simp only [Script.run, hw, Backend.sound]
  show Script.run w (match entry.1 with | .error _ => _ | .ok _ => _) entry.2 = _
  cases entry.1 <;> rfl

/-- **A failure that is due raises an alert**, if its check has none open. -/
theorem run_onFailure_of_vacant (hw : w.backend = .sound) (hdue : rules.threshold ≤ streak)
    (hnone : (s.answer (.activeAlert check.id)).1 = .ok none) {why : Option Suppression}
    (hwhy : ((suppression rules check).run w s).result = some why)
    (hfree : ∀ r ∈ s.alerts, r.id ≠ id) :
    let a := newAlert rules check result streak id w.now why
    (onFailure rules check result streak id).run w s =
      ⟨some (some a), { s with alerts := s.alerts ++ [a.toRow] }, [a.opening w.now], []⟩ := by
  intro a
  have hentry : s.answer (.insertAlert a) = (.ok (), { s with alerts := s.alerts ++ [a.toRow] }) :=
    Store.answer_insertAlert hfree
  rw [run_onFailure_of_due hw hdue hnone, run_raise hw hwhy, hentry]

/-- If the name of the new alert is taken, nothing is raised. -/
theorem run_onFailure_of_taken (hw : w.backend = .sound) (hdue : rules.threshold ≤ streak)
    (hnone : (s.answer (.activeAlert check.id)).1 = .ok none) {why : Option Suppression}
    (hwhy : ((suppression rules check).run w s).result = some why)
    (htaken : ∃ r ∈ s.alerts, r.id = id) :
    (onFailure rules check result streak id).run w s = ⟨some none, s, [], []⟩ := by
  obtain ⟨e, hentry⟩ := Store.answer_insertAlert_of_taken
    (a := newAlert rules check result streak id w.now why) htaken
  rw [run_onFailure_of_due hw hdue hnone, run_raise hw hwhy, hentry]

/-- A failure is all that a failure is about. -/
theorem react_of_failed {streaks : Streaks} (h : result.success = false) :
    react rules streaks check result id =
      onFailure rules check result (streaks.count check.id) id := by
  unfold react
  simp [h]

/-- A success whose check has no open alert does nothing. -/
theorem run_react_of_none (hw : w.backend = .sound) {streaks : Streaks}
    (h : result.success = true) (hnone : (s.answer (.activeAlert check.id)).1 = .ok none) :
    (react rules streaks check result id).run w s = ⟨some none, s, [], []⟩ := by
  unfold react onSuccess
  rw [if_pos h, query_bind, ask_bind]
  simp only [Script.run, hw, Backend.sound, hnone]
  rw [Store.answer_snd_of_isLookup s rfl]
  rfl

/-- **A success resolves the open alert** of its check. -/
theorem run_react_of_open (hw : w.backend = .sound) {streaks : Streaks}
    (h : result.success = true) (hopen : (s.answer (.activeAlert check.id)).1 = .ok (some a)) :
    (react rules streaks check result id).run w s =
      ⟨some none, (s.answer (.resolveAlert a.id w.now)).2, [a.ending w.now w.now], []⟩ := by
  have hresolved : (s.answer (.resolveAlert a.id w.now)).1 = .ok () := rfl
  unfold react onSuccess
  rw [if_pos h, query_bind, ask_bind]
  simp only [Script.run, hw, Backend.sound, hopen]
  rw [Store.answer_snd_of_isLookup s rfl]
  simp only [now_bind, query_bind, clock_bind, ask_bind, Script.run, hw, Backend.sound, hresolved]
  rfl

end Alerting

end NetWatch
