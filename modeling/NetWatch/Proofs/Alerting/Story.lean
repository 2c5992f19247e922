/-
NetWatch.Proofs.Alerting.Story — what is told of an alert, in the end (`publish_alert`).

Every step keeps the books of `NetWatch.Proofs.Alerting.History` in order, one
case for each kind of step (`Books.step`), so they are in order after every run
(`Run.books`). What they say of an alert that was entered is `Run.story`: that
it was raised is told once and first, its end at most once and after that; its
end is told exactly if a success found it open; and as long as its row is open
its end has not been told.

While a call is in progress it may not have told yet what it did. And a call
that fails to resolve the alert that it found tells nothing.
-/
import NetWatch.Proofs.Alerting.History

namespace NetWatch

/-- All that may be told of an alert: that it was raised, and then perhaps that
it was resolved. -/
inductive Story (a : Alert) : List Event → Prop where
  | opened (now : Timestamp) : Story a [a.opening now]
  | ended (now : Timestamp) {b : Alert} (resolved later : Timestamp) (hb : b.id = a.id) :
    Story a [a.opening now, b.ending resolved later]

/-! ## The books at the start -/

/-- The books of a site where nothing has happened yet. -/
theorem Books.opened (rules : AlertRules) (streaks : Streaks) (store : Store) :
    Books .over (.opened rules streaks store) [] where
  holding := .of_none rfl
  pending t rest hs := by cases hs
  subject b hb := by cases hb
  unspent id hid := {
    rows := fun r hr heq => hid (heq ▸ List.mem_map_of_mem hr)
    entered := fun a ha => by cases ha
    told := rfl
    found := by
      rintro ⟨a, ha, -⟩
      cases ha }
  plain a ha := by cases ha
  kept a ha := by cases ha
  chapter a ha := by cases ha

/-! ## One step -/

theorem Stage.subject?_of_isSettled {stage : Stage} (h : stage.isSettled = true) :
    stage.subject? = none := by
  cases stage <;> first | rfl | cases h

/-- After the look-up a call is busy with the alert that a success found, or with none. -/
theorem Task.afterLookup_cases (t : Task) (r : Except StoreError (Option Alert)) :
    (∃ a, t.afterLookup r = .found a) ∨ (t.afterLookup r).subject? = none := by
  rcases r with e | _ | a
  · exact .inr rfl
  · refine .inr ?_
    simp only [Task.afterLookup]
    split <;> rfl
  · simp only [Task.afterLookup]
    split
    · exact .inl ⟨a, rfl⟩
    · exact .inr rfl

namespace Holding

variable {stage : Stage} {s : Site}

/-- Who holds the lock, and what is left to do, are all that matters. -/
theorem of_holder_eq {s' : Site} (h : Holding stage s) (hs : s'.holder = s.holder) :
    Holding stage s' where
  idle hnone := h.idle (hs ▸ hnone)
  follows t rest hrest := h.follows t rest (hs ▸ hrest)
  plain t rest hrest := h.plain t rest (hs ▸ hrest)
  failed t rest hrest := h.failed t rest (hs ▸ hrest)

/-- The call in progress goes on, at a stage that only a failure is newly at. -/
theorem goes_on {stage' : Stage} {s' : Site} {t : Task} {rest rest' : Script (Option Alert)}
    (h : Holding stage s) (hs : s.holder = some (t, rest)) (hs' : s'.holder = some (t, rest'))
    (hfollows : Follows t stage' rest')
    (hfailed : stage' = .vacant → stage = .vacant ∨ t.result.success = false) :
    Holding stage' s' :=
  .of_some hs' hfollows (h.plain t rest hs) fun hstage =>
    (hfailed hstage).elim (h.failed t rest hs) id

end Holding

namespace Books

variable {stage : Stage} {s s' : Site} {acts : List Act} {t : Task}

/-- A call asks for the open alert of its check. -/
theorem lookup {next : (Query.activeAlert t.check.id).Reply → Script (Option Alert)}
    {r : (Query.activeAlert t.check.id).Reply} (h : Books .begun s acts)
    (hs : s.holder = some (t, .ask (.activeAlert t.check.id) next))
    (hr : r = (s.store.answer (.activeAlert t.check.id)).1 ∨ ∃ e, r = .error e)
    (hstore : s'.store = s.store) (hspent : s'.spent = s.spent)
    (hs' : s'.holder = some (t, next r)) (hfollows : Follows t (t.afterLookup r) (next r)) :
    Books (t.afterLookup r) s' (acts ++ [.asked t (.activeAlert t.check.id) r]) := by
  have hholding : Holding (t.afterLookup r) s' := by
    refine h.holding.goes_on hs hs' hfollows fun hvacant => .inr ?_
    have hdue := (Task.of_afterLookup_eq_vacant hvacant).2
    unfold Task.isDue at hdue
    cases hpassed : t.result.success with
    | false => rfl
    | true => simp [hpassed] at hdue
  rcases t.afterLookup_cases r with ⟨a, hfound⟩ | hnone
  · obtain ⟨hreply, hpassed⟩ := Task.of_afterLookup_eq_found hfound
    rw [hfound] at hholding ⊢
    subst hreply
    rcases hr with hr | ⟨e, he⟩
    · exact h.find hpassed hr.symm hstore hspent hholding
    · cases he
  · refine h.carry (.of_lookup hnone) (.of_eq (by rw [hstore])) (by rw [hspent]; exact fun _ => id)
      rfl hnone hholding fun t' rest' hs'' _ => ?_
    rw [hs'] at hs''
    cases hs''
    rw [hspent]
    exact h.pending t _ hs (.inl rfl)

/-- The name of a call that is to enter an alert is not that of any row. -/
theorem free (h : Books .vacant s acts) {rest : Script (Option Alert)}
    (hs : s.holder = some (t, rest)) : ∀ r ∈ s.store.alerts, r.id ≠ t.id := by
  intro r hr hid
  refine (h.pending t rest hs (.inr rfl)).1.rows r hr ?_
  rw [hid]
  exact shownText_eq_self (h.holding.plain t rest hs)

/-- A call asks the store, which answers. -/
theorem answer {q : Query} {next : q.Reply → Script (Option Alert)} (h : Books stage s acts)
    (hs : s.holder = some (t, .ask q next)) :
    ∃ stage', Books stage' { s with
        store := (s.store.answer q).2, holder := some (t, next (s.store.answer q).1) }
      (acts ++ [.asked t q (s.store.answer q).1]) := by
  cases h.holding.follows t _ hs with
  | lookup hnext =>
    exact ⟨_, h.lookup hs (.inl rfl) (Store.answer_snd_of_isLookup s.store rfl) rfl rfl (hnext _)⟩
  | look hq hnext =>
    refine ⟨.vacant, h.stay (.of_look (h.holding.failed t _ hs rfl) hq _)
      (.of_eq (by rw [Store.answer_snd_of_isLookup s.store hq])) rfl
      (h.holding.goes_on hs rfl (hnext _) .inl) ?_⟩
    rintro t' rest' ⟨⟩
    exact ⟨_, hs⟩
  | @enter now why _ hfail hok =>
    have hfree : ∀ r ∈ s.store.alerts, r.id ≠ (t.alert now why).id := h.free hs
    have hreply : (s.store.answer (.insertAlert (t.alert now why))).1 = .ok () := by
      rw [Store.answer_insertAlert hfree]
    rw [hreply]
    exact ⟨_, h.enter hs rfl rfl rfl (h.holding.goes_on hs rfl hok nofun)⟩
  | resolve hfail hok =>
    exact ⟨_, h.resolve (.ok ()) rfl rfl (h.holding.goes_on hs rfl hok nofun)⟩

/-- A call asks the store, and the query fails. -/
theorem fail {q : Query} {next : q.Reply → Script (Option Alert)} (h : Books stage s acts)
    (hs : s.holder = some (t, .ask q next)) (e : StoreError) :
    ∃ stage', Books stage' { s with holder := some (t, next (.error e)) }
      (acts ++ [.asked t q (.error e)]) := by
  cases h.holding.follows t _ hs with
  | lookup hnext => exact ⟨_, h.lookup hs (.inr ⟨e, rfl⟩) rfl rfl rfl (hnext _)⟩
  | look hq hnext =>
    refine ⟨.vacant, h.stay (.of_failed t q e) (.of_eq rfl) rfl
      (h.holding.goes_on hs rfl (hnext _) .inl) ?_⟩
    rintro t' rest' ⟨⟩
    exact ⟨_, hs⟩
  | enter hfail hok =>
    refine ⟨.over, h.carry (.of_failed t _ e) (.of_eq rfl) (fun _ => id) rfl rfl
      (h.holding.goes_on hs rfl (hfail e) nofun) ?_⟩
    rintro t' rest' - (hstage | hstage) <;> cases hstage
  | resolve hfail hok =>
    exact ⟨.over, h.resolveFailed (.of_eq rfl) rfl (h.holding.goes_on hs rfl (hfail e) nofun)⟩

/-- A call has nothing left to do, or stops for good. -/
theorem leave (h : Books stage s acts) (t : Task) (hsettled : stage.isSettled = true) :
    Books .over { s with holder := none } (acts ++ [.left t]) :=
  h.carry ⟨rfl, rfl, rfl⟩ (.of_eq rfl) (fun _ => id)
    (Stage.subject?_of_isSettled hsettled) rfl (.of_none rfl) fun _ _ hrest => by cases hrest

/-- **Every step leaves the books in order.** -/
theorem step {act : Act} (h : Books stage s acts) (hstep : Step s act s') :
    ∃ stage', Books stage' s' (acts ++ [act]) := by
  cases hstep with
  | call check result =>
    exact ⟨stage, h.stay ⟨rfl, rfl, rfl⟩ (.of_eq rfl) rfl (h.holding.of_holder_eq rfl)
      fun t rest hs => ⟨rest, hs⟩⟩
  | @enter before after check result id hfree hwaits hnew hplain =>
    cases h.holding.idle hfree
    refine ⟨.begun, h.carry ⟨rfl, rfl, rfl⟩ (.of_eq rfl) (fun _ => List.mem_cons_of_mem id) rfl
      rfl (.of_some rfl (Task.follows_script _) hplain nofun) ?_⟩
    rintro t rest ⟨⟩ -
    exact ⟨h.unspent id hnew, List.mem_cons_self⟩
  | answer hs => exact h.answer hs
  | fail hs e => exact h.fail hs e
  | @look t next hs now =>
    refine ⟨stage, h.stay ⟨rfl, rfl, rfl⟩ (.of_eq rfl) rfl ?_ ?_⟩
    · cases h.holding.follows t _ hs with
      | clock hnext => exact h.holding.goes_on hs rfl (hnext now) .inl
    · rintro t' rest' ⟨⟩
      exact ⟨_, hs⟩
  | @tell t e next hs =>
    refine ⟨.over, ?_⟩
    cases h.holding.follows t _ hs with
    | tellOpening hnext => exact h.tellOpening rfl rfl (h.holding.goes_on hs rfl hnext nofun)
    | tellEnding hnext => exact h.tellEnding rfl rfl (h.holding.goes_on hs rfl hnext nofun)
  | @leave t a hs =>
    cases h.holding.follows t _ hs with
    | done a hsettled => exact ⟨.over, h.leave t hsettled⟩
  | @stop t hs =>
    cases h.holding.follows t _ hs with
    | abort hsettled => exact ⟨.over, h.leave t hsettled⟩
  | @other q hq =>
    exact ⟨stage, h.stay ⟨rfl, rfl, rfl⟩ (.of_answer hq rfl) rfl (h.holding.of_holder_eq rfl)
      fun t rest hs => ⟨rest, hs⟩⟩
  | restart hfree hwaits rules =>
    exact ⟨stage, h.stay ⟨rfl, rfl, rfl⟩ (.of_eq rfl) rfl (h.holding.of_holder_eq rfl)
      fun t rest hs => ⟨rest, hs⟩⟩

end Books

/-! ## What a chapter says -/

theorem Alert.openingTopic_ne (a : Alert) : a.openingTopic ≠ Topic.alertResolved := by
  unfold openingTopic
  split <;> decide

/-- As long as no more is told than that an alert was raised, its end is not told. -/
theorem not_toldResolved {acts : List Act} {a : Alert} {now : Timestamp}
    (h : toldAbout a.id acts = [a.opening now]) : ¬ToldResolved acts a.id := by
  rintro ⟨e, he, htopic⟩
  rw [h, List.mem_singleton] at he
  subst he
  exact a.openingTopic_ne htopic

namespace Chapter

variable {stage : Stage} {s : Site} {acts : List Act} {a : Alert}

theorem toldAbout_cases (h : Chapter stage s acts a) :
    toldAbout a.id acts = [] ∨ Story a (toldAbout a.id acts) := by
  cases h with
  | untold _ ht _ => exact .inl ht
  | going _ ht _ => exact .inr (ht ▸ .opened _)
  | found _ _ ht _ => exact .inr (ht ▸ .opened _)
  | closed _ _ ht _ _ => exact .inr (ht ▸ .opened _)
  | ended _ hb ht _ _ => exact .inr (ht ▸ .ended _ _ _ hb)

/-- Once the end of an alert is told, a success has found it and no row of it is open. -/
theorem of_toldResolved (h : Chapter stage s acts a) (htold : ToldResolved acts a.id) :
    FoundOpen acts a.id ∧ s.NoneActive a.id := by
  cases h with
  | untold _ ht _ =>
    obtain ⟨e, he, -⟩ := htold
    rw [ht] at he
    cases he
  | going _ ht _ => exact absurd htold (not_toldResolved ht)
  | found _ _ ht _ => exact absurd htold (not_toldResolved ht)
  | closed _ _ ht _ _ => exact absurd htold (not_toldResolved ht)
  | ended _ _ _ hf hc => exact ⟨hf, hc⟩

/-- While no call is in progress, all is told. -/
theorem settled (h : Chapter .over s acts a) :
    Story a (toldAbout a.id acts) ∧
      (FoundOpen acts a.id → ToldResolved acts a.id ∨ ResolveFailed acts a.id) := by
  cases h with
  | untold hstage _ _ => cases hstage
  | going _ ht hf => exact ⟨ht ▸ .opened _, fun hfound => .inr (hf hfound)⟩
  | found hstage _ _ _ => cases hstage
  | closed hstage _ _ _ _ => cases hstage
  | @ended _ time later b _ hb ht _ _ =>
    refine ⟨ht ▸ .ended _ _ _ hb, fun _ => .inl ⟨b.ending time later, ?_, rfl⟩⟩
    rw [ht]
    simp

end Chapter

/-! ## A whole run -/

namespace Run

variable {rules : AlertRules} {streaks : Streaks} {store : Store} {acts : List Act} {s : Site}

theorem books (hrun : Run (.opened rules streaks store) acts s) :
    ∃ stage, Books stage s acts := by
  induction hrun with
  | start => exact ⟨.over, .opened rules streaks store⟩
  | step _ hstep ih =>
    obtain ⟨stage, h⟩ := ih
    exact h.step hstep

/-- **What is told of an alert that the alerter entered.** -/
theorem story (hrun : Run (.opened rules streaks store) acts s) {a : Alert}
    (ha : Entered acts a) :
    (toldAbout a.id acts = [] ∨ Story a (toldAbout a.id acts)) ∧
      (ToldResolved acts a.id → FoundOpen acts a.id) ∧
      (∀ r ∈ s.store.alerts, r.id = a.id →
        a.toRow.Later r ∧ (r.isActive = true → ¬ToldResolved acts a.id)) ∧
      (s.holder = none →
        Story a (toldAbout a.id acts) ∧
          (¬ResolveFailed acts a.id → (ToldResolved acts a.id ↔ FoundOpen acts a.id))) := by
  obtain ⟨stage, h⟩ := hrun.books
  have hchapter := h.chapter a ha
  refine ⟨hchapter.toldAbout_cases, fun htold => (hchapter.of_toldResolved htold).1,
    fun r hr hid => ?_, fun hfree => ?_⟩
  · have hshown : shownText r.id = a.id := hid ▸ shownText_eq_self (hid ▸ h.plain a ha)
    refine ⟨h.kept a ha r hr hshown, fun hactive htold => ?_⟩
    rw [(hchapter.of_toldResolved htold).2 r hr hid] at hactive
    cases hactive
  · cases h.holding.idle hfree
    obtain ⟨hstory, hresolved⟩ := hchapter.settled
    exact ⟨hstory, fun hfailed => ⟨fun htold => (hchapter.of_toldResolved htold).1,
      fun hfound => (hresolved hfound).resolve_right hfailed⟩⟩

/-- An alert that a success ends. -/
theorem story_of_resolved_alert :
    ∃ (acts : List Act) (s : Site) (a : Alert),
      Run (.opened (.create 1 none false) .empty .empty) acts s ∧ Entered acts a ∧
        Story a (toldAbout a.id acts) ∧ (ToldResolved acts a.id ↔ FoundOpen acts a.id) ∧
        (toldAbout a.id acts).map Event.topic = [Topic.alertTriggered, Topic.alertResolved] := by
  let check : Check := .create "check-1" "device-1" "http" "http://device-1/" .epoch
  let w : World := ⟨.epoch, .sound, fun _ => .unreachable⟩
  let s₀ := Site.opened (.create 1 none false) .empty .empty
  let s₁ := s₀.afterCall w check (.failed check "timeout" .epoch) "alert-1"
  let acts := s₀.actsOfCall w check (.failed check "timeout" .epoch) "alert-1" ++
    s₁.actsOfCall w check (.passed check 1 .epoch) "alert-2"
  have hrun : Run s₀ acts _ :=
    (Run.call rfl check _ rfl (by decide) (by decide)).trans
      (Run.call rfl check _ rfl (by decide) (by decide))
  let a := (s₀.task check (.failed check "timeout" .epoch) "alert-1").alert .epoch none
  have hentered : acts.filterMap Act.entered? = [a] := by
    dsimp only [acts, s₁, s₀, w, check, a]
    cbv
  have ha : Entered acts a := by
    unfold Entered
    rw [hentered]
    simp
  have hfailed : acts.filterMap Act.unresolved? = [] := by
    dsimp only [acts, s₁, s₀, w, check, a]
    cbv
  obtain ⟨-, -, -, hdone⟩ := hrun.story ha
  refine ⟨acts, _, a, hrun, ha, (hdone rfl).1, (hdone rfl).2 ?_, ?_⟩
  · unfold ResolveFailed
    rw [hfailed]
    simp
  · dsimp only [acts, s₁, s₀, w, check, a]
    cbv

end Run

end NetWatch
