/-
NetWatch.Proofs.Alerting.Onset — when an alert is raised, and how severe it is
(`handle_failure`).

The streak that the alerter keeps of a check is a number in memory; whether the
check has an open alert is written in the store, and others may resolve or purge
alerts there at any time. So how severe a new alert is depends on the whole
history: an alert that somebody resolves while its check goes on failing is
followed by another one, of a longer streak.

The counter is right after every run that begins with an alerter that has
counted nothing (`Run.count_eq`). What a failure then leads to, where all its
queries are answered, is `Call.onset`: it raises an alert exactly if the streak
has reached the threshold and the check is found to have no open alert, and the
alert says how long the streak is.
-/
import NetWatch.Proofs.Alerting.Tenure
import NetWatch.Proofs.Alerting.OneOpenAlert
import Mathlib

namespace NetWatch

open Script Alerting

/-! ## Streaks, read off what happened -/

/-- Whether an act counts a failure of a check, if it sets the streak of the check at all. -/
def Act.failing? (checkId : String) : Act → Option Bool
  | .entered t => if t.check.id = checkId then some (!t.result.success) else none
  | .restarted _ => some false
  | _ => none

/-- How often a check has failed since it last succeeded, by this alerter. -/
def streakIn (checkId : String) (acts : List Act) : Nat :=
  ((acts.filterMap (Act.failing? checkId)).rtakeWhile id).length

section

variable {checkId : String} {acts : List Act} {act : Act}

theorem streakIn_concat_of_none (h : act.failing? checkId = none) :
    streakIn checkId (acts ++ [act]) = streakIn checkId acts := by
  simp [streakIn, List.filterMap_append, h]

theorem streakIn_concat_of_failing (h : act.failing? checkId = some true) :
    streakIn checkId (acts ++ [act]) = streakIn checkId acts + 1 := by
  simp [streakIn, List.filterMap_append, h, List.rtakeWhile_concat_pos]

theorem streakIn_concat_of_passing (h : act.failing? checkId = some false) :
    streakIn checkId (acts ++ [act]) = 0 := by
  simp [streakIn, List.filterMap_append, h, List.rtakeWhile_concat_neg]

end

namespace Run

variable {rules : AlertRules} {store : Store} {acts : List Act} {act : Act} {s s' : Site}

/-- A step counts as it should. -/
theorem count_step {checkId : String}
    (h : s.streaks.count checkId = UInt32.ofNat (streakIn checkId acts)) (hstep : Step s act s') :
    s'.streaks.count checkId = UInt32.ofNat (streakIn checkId (acts ++ [act])) := by
  cases hstep with
  | @enter _ _ check result id _ _ _ _ =>
    show (s.streaks.record check.id result.success).count checkId = _
    by_cases hcheck : check.id = checkId
    · subst hcheck
      cases hresult : result.success with
      | true =>
        rw [streakIn_concat_of_passing (by simp [Act.failing?, Site.task, hresult])]
        exact s.streaks.count_clear_self check.id
      | false =>
        rw [streakIn_concat_of_failing (by simp [Act.failing?, Site.task, hresult]),
          UInt32.ofNat_add, ← h]
        exact s.streaks.count_fail_self check.id
    · rw [streakIn_concat_of_none (by simp [Act.failing?, Site.task, hcheck]), ← h]
      exact s.streaks.count_record_of_ne (Ne.symm hcheck) result.success
  | restart _ _ _ =>
    rw [streakIn_concat_of_passing rfl]
    rfl
  | _ =>
    rw [streakIn_concat_of_none rfl]
    exact h

/-- **The streak of every check is what the run says**, but for words of 32 bits. -/
theorem count_eq (hrun : Run (.opened rules .empty store) acts s) (checkId : String) :
    s.streaks.count checkId = UInt32.ofNat (streakIn checkId acts) := by
  induction hrun with
  | start => rfl
  | step _ hstep ih => exact count_step ih hstep

end Run

/-! ## Severity -/

/-- The streak from which on a new alert is critical, as a number. -/
theorem AlertRules.toNat_criticalAt (r : AlertRules) :
    r.criticalAt.toNat = min (2 * r.threshold.toNat) (2 ^ 32 - 1) := by
  unfold criticalAt
  split
  · rw [UInt32.toNat_mul]
    show r.threshold.toNat * 2 % 2 ^ 32 = _
    omega
  · show 4294967295 = _
    omega

theorem AlertRules.severityAt_eq_critical_iff (r : AlertRules) (streak : UInt32) :
    r.severityAt streak = .critical ↔
      min (2 * r.threshold.toNat) (2 ^ 32 - 1) ≤ streak.toNat := by
  rw [← r.toNat_criticalAt, ← UInt32.le_iff_toNat_le]
  unfold severityAt
  split <;> simp_all

/-! ## Failures whose queries are answered -/

/-- **What a failure comes to** if the store answers all that it asks and nothing stops it: the
streak is too short, or the alert of the check is open, or one is raised. -/
theorem Task.conduct_of_answered {t : Task} {moves : List Move} {raised : Option Alert}
    (hends : t.script.Plays moves (some raised)) (hfailed : t.result.success = false)
    (hanswered : ∀ q e, .asked q (.error e) ∉ moves) :
    (t.streak < t.rules.threshold ∧ moves = []) ∨
      (t.rules.threshold ≤ t.streak ∧
        ∃ a, moves = [.asked (.activeAlert t.check.id) (.ok (some a))]) ∨
      (t.rules.threshold ≤ t.streak ∧ ∃ now looks why later,
        Weighs t.rules t.check looks (some why) ∧
        moves = .asked (.activeAlert t.check.id) (.ok none) :: .looked now ::
          (looks ++ [.asked (.insertAlert (t.alert now why)) (.ok ()), .looked later,
            .told ((t.alert now why).opening later)])) := by
  have hthreshold (hdue : t.isDue = true) : t.rules.threshold ≤ t.streak := by
    simpa [Task.isDue, hfailed] using hdue
  cases Task.conduct_of_plays hends with
  | early _ hearly => exact .inl ⟨hearly, rfl⟩
  | lost e => exact absurd (.head _) (hanswered _ e)
  | calm hpassed | unresolved hpassed _ _ _ | resolved hpassed _ _ _ =>
    rw [hfailed] at hpassed
    cases hpassed
  | known hdue a => exact .inr (.inl ⟨hthreshold hdue, a, rfl⟩)
  | stopped hdue _ hlooks => exact absurd hlooks (Task.not_weighs_none_of_plays hdue hends)
  | unentered _ _ _ e =>
    exact absurd (.tail _ (.tail _ (List.mem_append_right _ (.head _)))) (hanswered _ e)
  | raised hdue now hlooks later =>
    exact .inr (.inr ⟨hthreshold hdue, now, _, _, later, hlooks, rfl⟩)

/-- Whether a call looks up the open alert of its check at a point where something holds of the
store, which is what others have made of it so far. -/
def LooksUpWhere (s : Site) (t : Task) (acts : List Act) (p : Store → Prop) : Prop :=
  ∃ earlier reply later, acts = earlier ++ .asked t (.activeAlert t.check.id) reply :: later ∧
    p (s.store.after (othersIn earlier))

/-- The store with one more alert. -/
def Store.withAlert (s : Store) (a : Alert) : Store :=
  { s with alerts := s.alerts ++ [a.toRow] }

/-- An alert that is entered without fault is there at the end of the table. -/
theorem Store.eq_of_insertAlert {s s' : Store} {a : Alert}
    (h : s.answer (.insertAlert a) = (.ok (), s')) : s' = s.withAlert a := by
  by_cases htaken : ∃ r ∈ s.alerts, r.id = a.id
  · obtain ⟨e, hrefused⟩ := answer_insertAlert_of_taken htaken
    cases hrefused.symm.trans h
  · have hfree : ∀ r ∈ s.alerts, r.id ≠ a.id := fun r hr hid => htaken ⟨r, hr, hid⟩
    cases (answer_insertAlert hfree).symm.trans h
    rfl

namespace Call

variable {s s' : Site} {t : Task} {acts : List Act} {found : Option Alert} {rest : List Move}
  {p : Store → Prop}

theorem mem_of_mem_movesIn (h : Call s t acts s') {m : Move} (hm : m ∈ movesIn acts) :
    m.act t ∈ acts := by
  obtain ⟨s₁, s₂, -, -, hwithin, -⟩ := h.exists_within
  obtain ⟨act, hact, hmove⟩ := List.mem_filterMap.1 hm
  exact hwithin.own act hact m hmove ▸ hact

theorem mem_movesIn {m : Move} (hm : m.act t ∈ acts) : m ∈ movesIn acts :=
  List.mem_filterMap.2 ⟨_, hm, Move.move?_act t m⟩

/-- The look-up that comes first is answered by the store that others have made. -/
theorem answer_of_lookup (h : Call s t acts s') {earlier later : List Act} {act : Act}
    (hacts : acts = earlier ++ act :: later)
    (hact : act.move? = some (.asked (.activeAlert t.check.id) (.ok found)))
    (hearlier : movesIn earlier = []) :
    ((s.store.after (othersIn earlier)).answer (.activeAlert t.check.id)).1 = .ok found := by
  obtain ⟨s₁, s₂, hduring, hentered, -⟩ := h.exists_run
  obtain ⟨s₃, -, hreply⟩ := (hacts ▸ hduring).exists_of_asked hact (by simp [hearlier])
  rw [hentered] at hreply
  rcases hreply with hanswer | ⟨e, hfailed, -⟩
  · rw [hanswer]
  · cases hfailed

theorem looksUpWhere (h : Call s t acts s')
    (hmoves : movesIn acts = .asked (.activeAlert t.check.id) (.ok found) :: rest)
    (hp : ∀ st : Store, (st.answer (.activeAlert t.check.id)).1 = .ok found → p st) :
    LooksUpWhere s t acts p := by
  obtain ⟨earlier, act, later, hacts, hearlier, hact, -⟩ :=
    @exists_of_movesIn_eq acts [] rest _ hmoves
  obtain ⟨s₁, s₂, -, -, hwithin, -⟩ := h.exists_within
  have hmem : act ∈ acts := hacts ▸ List.mem_append_right _ (.head _)
  have hown := hwithin.own act hmem _ hact
  refine ⟨earlier, .ok found, later, ?_, hp _ (h.answer_of_lookup hacts hact hearlier)⟩
  rw [hacts, hown]
  rfl

theorem exists_of_looksUpWhere (h : Call s t acts s')
    (hmoves : movesIn acts = .asked (.activeAlert t.check.id) (.ok found) :: rest)
    (hrest : ∀ reply, .asked (.activeAlert t.check.id) reply ∉ rest)
    (hlooks : LooksUpWhere s t acts p) :
    ∃ st : Store, p st ∧ (st.answer (.activeAlert t.check.id)).1 = .ok found := by
  obtain ⟨earlier, reply, later, hacts, hp⟩ := hlooks
  have hact : (Act.asked t (.activeAlert t.check.id) reply).move? =
      some (.asked (.activeAlert t.check.id) reply) := rfl
  have hsplit : [] ++ .asked (.activeAlert t.check.id) (.ok found) :: rest =
      movesIn earlier ++ .asked (.activeAlert t.check.id) reply :: movesIn later := by
    rw [List.nil_append, ← hmoves, hacts, movesIn_append]
    rfl
  obtain ⟨hearlier, hreply, -⟩ :=
    (List.append_cons_inj_of_notMem List.not_mem_nil (hrest reply)).1 hsplit
  cases hreply
  exact ⟨_, hp, h.answer_of_lookup hacts hact hearlier.symm⟩

/-- The alert of a call that ends with an entry is entered at the end of the table. -/
theorem entry (h : Call s t acts s') {looks : List Move} {a b : Alert} {now : Timestamp} {e : Event}
    (hmoves : movesIn acts =
      looks ++ [.asked (.insertAlert a) (.ok ()), .looked now, .told e])
    (hlooks : ∀ m ∈ looks, m.isLook = true) {earlier later : List Act}
    (hacts : acts = earlier ++ .asked t (.insertAlert b) (.ok ()) :: later) :
    b = a ∧ s'.store = ((s.store.after (othersIn earlier)).withAlert a).after (othersIn later) := by
  have hsplit : looks ++ .asked (.insertAlert a) (.ok ()) :: [.looked now, .told e] =
      movesIn earlier ++ .asked (.insertAlert b) (.ok ()) :: movesIn later := by
    rw [← hmoves, hacts, movesIn_append]
    rfl
  have hnot : .asked (.insertAlert b) (.ok ()) ∉ looks := fun hm => nomatch hlooks _ hm
  obtain ⟨hearlier, hentry, hlater⟩ :=
    (List.append_cons_inj_of_notMem hnot (by simp)).1 hsplit
  cases hentry
  obtain ⟨s₁, s₂, hduring, hentered, hleft⟩ := h.exists_run
  have hact : (Act.asked t (.insertAlert a) (.ok ())).move? =
    some (.asked (.insertAlert a) (.ok ())) := rfl
  obtain ⟨s₃, hafter, hreply⟩ := (hacts ▸ hduring).exists_of_asked hact fun q reply hm =>
    hlooks (.asked q reply) (hearlier ▸ hm)
  rw [hentered] at hreply
  refine ⟨rfl, ?_⟩
  have hanswer := hreply.resolve_right (by rintro ⟨_, ⟨⟩, _⟩)
  rw [hleft, hafter.store_eq_after (by simp [← hlater]), Store.eq_of_insertAlert hanswer]

/-- The streak that a call goes by is the one that the run says. -/
theorem toNat_streak {rules : AlertRules} {store : Store} {before : List Act}
    (hrun : Run (.opened rules .empty store) before s) (h : Call s t acts s')
    (hlength : streakIn t.check.id (before ++ [.entered t]) < 2 ^ 32) :
    t.streak.toNat = streakIn t.check.id (before ++ [.entered t]) := by
  obtain ⟨s₁, -, henter, -, -, -⟩ := h.exists_within
  have hcount := Run.count_step (hrun.count_eq t.check.id) henter
  rw [(Within.entered henter).streaks] at hcount
  show (t.streaks.count t.check.id).toNat = _
  rw [hcount, UInt32.toNat_ofNat']
  exact Nat.mod_eq_of_lt hlength

section

variable (h : Call s t acts s') (hfailed : t.result.success = false)
  (hanswered : ∀ q e, .asked q (.error e) ∉ movesIn acts)
  (hends : t.Completes acts)

include h hfailed hanswered hends

/-- **An alert is raised** by a failure that is due, exactly where its check is seen to have none
open. -/
theorem exists_entry_iff : (∃ a, .asked t (.insertAlert a) (.ok ()) ∈ acts) ↔
    t.rules.threshold ≤ t.streak ∧
      LooksUpWhere s t acts fun st => st.NoneOpen t.check.id := by
  obtain ⟨_, hplays⟩ := hends
  rcases Task.conduct_of_answered hplays hfailed hanswered with
    ⟨hearly, hmoves⟩ | ⟨-, a, hmoves⟩ | ⟨hdue, now, looks, why, later, -, hmoves⟩
  · constructor
    · rintro ⟨a, ha⟩
      simpa [hmoves] using mem_movesIn (m := .asked (.insertAlert a) (.ok ())) ha
    · rintro ⟨hdue, -⟩
      exact absurd hearly (UInt32.not_lt.2 hdue)
  · constructor
    · rintro ⟨b, hb⟩
      simpa [hmoves] using mem_movesIn (m := .asked (.insertAlert b) (.ok ())) hb
    · rintro ⟨-, hlooks⟩
      obtain ⟨st, hnone, hanswer⟩ := h.exists_of_looksUpWhere hmoves (by simp) hlooks
      obtain ⟨r, hr, hopen, -⟩ := Store.exists_isOpenFor_of_answer hanswer
      exact absurd hopen (List.filter_eq_nil_iff.1 hnone r hr)
  · constructor
    · intro _
      exact ⟨hdue, h.looksUpWhere hmoves fun st => Store.filter_isOpenFor_eq_nil⟩
    · intro _
      exact ⟨t.alert now why, h.mem_of_mem_movesIn (m := .asked _ _) (by simp [hmoves])⟩

/-- What is entered is the alert of the call, after all that were there. -/
theorem alert_of_entry {earlier later : List Act} {a : Alert}
    (hacts : acts = earlier ++ .asked t (.insertAlert a) (.ok ()) :: later) :
    (∃ now why, a = t.alert now why) ∧
      s'.store = ((s.store.after (othersIn earlier)).withAlert a).after (othersIn later) := by
  have hmem : .asked (.insertAlert a) (.ok ()) ∈ movesIn acts :=
    mem_movesIn (m := .asked _ _) (hacts ▸ List.mem_append_right _ (.head _))
  obtain ⟨_, hplays⟩ := hends
  rcases Task.conduct_of_answered hplays hfailed hanswered with
    ⟨-, hmoves⟩ | ⟨-, b, hmoves⟩ | ⟨-, now, looks, why, time, hweighs, hmoves⟩
  · simp [hmoves] at hmem
  · simp [hmoves] at hmem
  · have hmoves' : movesIn acts =
        (.asked (.activeAlert t.check.id) (.ok none) :: .looked now :: looks) ++
          [.asked (.insertAlert (t.alert now why)) (.ok ()), .looked time,
            .told ((t.alert now why).opening time)] := hmoves
    obtain ⟨rfl, hstore⟩ := h.entry hmoves' (Task.Conduct.isLook_of_weighs hweighs) hacts
    exact ⟨⟨now, why, rfl⟩, hstore⟩

/-- A failure that is not due, or whose check is seen to have an open alert, changes nothing. -/
theorem silent_of_early_or_open (hcase : t.streak < t.rules.threshold ∨
      LooksUpWhere s t acts fun st => ¬st.NoneOpen t.check.id) :
    (∀ a reply, .asked t (.insertAlert a) reply ∉ acts) ∧ toldIn acts = [] ∧
      s'.store = s.store.after (othersIn acts) := by
  have hlooked (hlooks : ∀ m ∈ movesIn acts, m.isLook = true) :
      (∀ a reply, .asked t (.insertAlert a) reply ∉ acts) ∧ toldIn acts = [] ∧
        s'.store = s.store.after (othersIn acts) := by
    refine ⟨fun a reply hm => ?_, h.of_looks hlooks⟩
    cases hlooks (.asked (.insertAlert a) reply) (mem_movesIn hm)
  obtain ⟨_, hplays⟩ := hends
  rcases Task.conduct_of_answered hplays hfailed hanswered with
    ⟨-, hmoves⟩ | ⟨-, a, hmoves⟩ | ⟨hdue, now, looks, why, time, hweighs, hmoves⟩
  · exact hlooked (by simp [hmoves])
  · exact hlooked (by simp [hmoves, Move.isLook, Query.isLookup])
  · obtain hearly | hlooks := hcase
    · exact absurd hearly (UInt32.not_lt.2 hdue)
    have hrest : ∀ reply, .asked (.activeAlert t.check.id) reply ∉ .looked now ::
        (looks ++ [.asked (.insertAlert (t.alert now why)) (.ok ()), .looked time,
          .told ((t.alert now why).opening time)]) := by
      intro reply
      have hnot : .asked (.activeAlert t.check.id) reply ∉ looks := by
        intro hm
        cases hweighs.isAside hm
      simp [hnot]
    obtain ⟨st, hopen, hanswer⟩ := h.exists_of_looksUpWhere hmoves hrest hlooks
    exact absurd (Store.filter_isOpenFor_eq_nil hanswer) hopen

end

/-- **When an alert is raised, and how severe it is.** A failing call in a run that began with an
alerter that had counted nothing, among any others that do anything but enter alerts, if the streak
is shorter than 2³², all that the call asks is answered and the call comes to its end:
* it enters an alert exactly if the streak `n`, this failure included, has reached the threshold `T`
  and the check has no open alert where the call looks for it;
* the alert is of the check and its device, says `n`, and is critical exactly from `2 * T` on, as
  far as words go;
* otherwise it tells nothing and leaves the store to the others, also when `n` passes `2 * T`. -/
theorem onset {rules : AlertRules} {store : Store} {before : List Act}
    (hrun : Run (.opened rules .empty store) before s) (h : Call s t acts s')
    (hfailed : t.result.success = false)
    (hlength : streakIn t.check.id (before ++ [.entered t]) < 2 ^ 32)
    (hanswered : ∀ q e, .asked q (.error e) ∉ movesIn acts) (hends : t.Completes acts) :
    let n := streakIn t.check.id (before ++ [.entered t])
    let T := t.rules.threshold.toNat
    ((∃ a, .asked t (.insertAlert a) (.ok ()) ∈ acts) ↔
      T ≤ n ∧ LooksUpWhere s t acts fun st => st.NoneOpen t.check.id) ∧
    (∀ earlier a later, acts = earlier ++ .asked t (.insertAlert a) (.ok ()) :: later →
      a.checkId = t.check.id ∧ a.deviceId = t.check.deviceId ∧ a.consecutiveFailures.toNat = n ∧
      (a.severity = .critical ↔ min (2 * T) (2 ^ 32 - 1) ≤ n) ∧
      s'.store = ((s.store.after (othersIn earlier)).withAlert a).after (othersIn later)) ∧
    (n < T ∨ (LooksUpWhere s t acts fun st => ¬st.NoneOpen t.check.id) →
      (∀ a reply, .asked t (.insertAlert a) reply ∉ acts) ∧ toldIn acts = [] ∧
        s'.store = s.store.after (othersIn acts)) := by
  intro n T
  have hn : t.streak.toNat = n := h.toNat_streak hrun hlength
  have hdue : t.rules.threshold ≤ t.streak ↔ T ≤ n := by
    rw [← hn, UInt32.le_iff_toNat_le]
  refine ⟨?_, fun earlier a later hacts => ?_, fun hcase => ?_⟩
  · rw [h.exists_entry_iff hfailed hanswered hends, hdue]
  · obtain ⟨⟨now, why, rfl⟩, hstore⟩ := h.alert_of_entry hfailed hanswered hends hacts
    refine ⟨rfl, rfl, hn, ?_, hstore⟩
    rw [← hn]
    exact t.rules.severityAt_eq_critical_iff t.streak
  · refine h.silent_of_early_or_open hfailed hanswered hends (hcase.imp_left fun hlt => ?_)
    rwa [← UInt32.not_le, hdue, Nat.not_le]

/-- A check that fails twice, where somebody resolves its alert in between: the second alert is
critical, though it is the first of its streak that is open. -/
theorem onset_of_resolved_alert :
    ∃ (before acts : List Act) (s s' : Site) (t : Task),
      Run (.opened (.create 1 none false) .empty .empty) before s ∧ Call s t acts s' ∧
      streakIn t.check.id (before ++ [.entered t]) = 2 ∧
      (s.store.alerts.map fun r => (r.id, r.severity, r.isActive)) =
        [("alert-1", Severity.warning.name, false)] ∧
      ∃ a, .asked t (.insertAlert a) (.ok ()) ∈ acts ∧ a.consecutiveFailures.toNat = 2 ∧
        a.severity = .critical := by
  let check : Check := .create "check-1" "device-1" "http" "http://device-1/" .epoch
  let failure : CheckResult := .failed check "timeout" .epoch
  let w : World := ⟨.epoch, .sound, fun _ => .unreachable⟩
  let s₀ := Site.opened (.create 1 none false) .empty .empty
  let s₁ := s₀.afterCall w check failure "alert-1"
  let q := Query.resolveAlert "alert-1" .epoch
  let s₂ : Site := { s₁ with store := (s₁.store.answer q).2 }
  let s : Site := { s₂ with waiting := [(check, failure)] }
  let t := s.task check failure "alert-2"
  let a := t.alert .epoch none
  let acts := (t.script.moves w s.store).map (·.act t)
  have hfirst : Run s₀ _ s₁ := Run.call rfl check failure rfl (by decide) (by decide)
  have hbefore : Run s₀ _ s := .step (.step hfirst (.other s₁ rfl)) (.call s₂ check failure)
  have hwaits : s.waiting = [] ++ (check, failure) :: [] := rfl
  have hcall : Call s t acts _ :=
    Call.alone (w := w) Backend.honest_sound rfl hwaits (by decide) (by decide)
  have hmoves : movesIn acts = [.asked (.activeAlert check.id) (.ok none), .looked .epoch,
      .asked (.blockingDevice check.id) (.ok none), .asked (.insertAlert a) (.ok ()),
      .looked .epoch, .told (a.opening .epoch)] := by
    rw [movesIn_map_act]
    dsimp only [a, t, s, s₂, q, s₁, s₀, w, check, failure]
    cbv
  let before := s₀.actsOfCall w check failure "alert-1" ++ [.other q] ++ [.called check failure]
  have hlength : streakIn t.check.id (before ++ [.entered t]) = 2 := by
    dsimp only [before, t, s, s₂, q, s₁, s₀, w, check, failure]
    cbv
  have hanswered : ∀ q e, .asked q (.error e) ∉ movesIn acts := by
    intro q e hm
    simp [hmoves] at hm
    rcases hm with ⟨rfl, h⟩ | ⟨rfl, h⟩ | ⟨rfl, h⟩ <;> cases h
  have hends : t.Completes acts := by
    refine ⟨some a, ?_⟩
    rw [hmoves]
    exact ⟨_, _, rfl, _, _, rfl, _, _, rfl, _, _, rfl, _, _, rfl, _, rfl, rfl, rfl⟩
  obtain ⟨-, halert, -⟩ := onset hbefore hcall rfl (by rw [hlength]; decide) hanswered hends
  have hentered : .asked t (.insertAlert a) (.ok ()) ∈ acts :=
    hcall.mem_of_mem_movesIn (m := .asked _ _) (by simp [hmoves])
  obtain ⟨earlier, later, hacts⟩ := List.append_of_mem hentered
  obtain ⟨-, -, hcount, hsevere, -⟩ := halert earlier a later hacts
  rw [hlength] at hcount hsevere
  refine ⟨before, acts, s, _, t, hbefore, hcall, hlength, ?_, a, hentered, hcount,
    hsevere.2 (by decide)⟩
  dsimp only [s, s₂, q, s₁, s₀, w, check, failure]
  cbv

end Call

end NetWatch
