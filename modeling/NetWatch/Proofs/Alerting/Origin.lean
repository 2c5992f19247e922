/-
NetWatch.Proofs.Alerting.Origin — where the alerts come from that are told to be over.

An alert is entered, its row may be resolved and acknowledged and is never
written over, and a success that finds it reads it back from the row. So every
alert that is found has an origin: a row from the start, or an alert that was
entered (`Traced`), and a name belongs to one origin only
(`Traced.origin_of_entered`).

`Run.same_alert` is what follows for the two events about an alert. They carry
the same alert, but for the two times that are set later and for the moment
when it was raised: the first event has it to the nanosecond, the second as it
was kept, to the millisecond.
-/
import NetWatch.Proofs.Alerting.Posts
import NetWatch.Proofs.Time.Millis

namespace NetWatch

/-! ## Alerts that are read back -/

/-- The texts of an alert are shown as they are kept. -/
structure Alert.IsPlain (a : Alert) : Prop where
  id : PlainText a.id
  checkId : PlainText a.checkId
  deviceId : PlainText a.deviceId
  message : PlainText a.message
  suppressedBy : ∀ device, a.suppressedBy = some device → PlainText device

/-- **What the row of an alert shows later** is the alert, but for its times. -/
theorem AlertRow.Later.toAlert {a : Alert} {r : AlertRow} (h : a.toRow.Later r)
    (hplain : a.IsPlain) : r.toAlert = .ok { a with
      triggeredAt := .ofMillis a.triggeredAt.toMillis
      resolvedAt := r.resolvedAt.map .ofMillis
      acknowledgedAt := r.acknowledgedAt.map .ofMillis } := by
  have hsuppressedBy : a.suppressedBy.map shownText = a.suppressedBy := by
    cases hcause : a.suppressedBy with
    | none => rfl
    | some device => exact congrArg some (shownText_eq_self (hplain.suppressedBy device hcause))
  rw [h.1]
  unfold AlertRow.toAlert Alert.toRow
  simp only [Severity.named?_shownText, shownText_eq_self hplain.id,
    shownText_eq_self hplain.checkId, shownText_eq_self hplain.deviceId,
    shownText_eq_self hplain.message, hsuppressedBy]

/-! ## Origins -/

/-- The rows that alerts started with: those that were there, and those of the alerts that were
entered. -/
def originsIn (store : Store) (acts : List Act) : List AlertRow :=
  store.alerts ++ (acts.filterMap Act.entered?).map Alert.toRow

/-- Where the alerts come from that are kept and that are found. -/
structure Traced (store : Store) (acts : List Act) (s : Site) : Prop where
  /-- The names of the rows that were there are in use. -/
  spent : ∀ r ∈ store.alerts, shownText r.id ∈ s.spent
  holder : ∀ t rest, s.holder = some (t, rest) → ∀ r ∈ store.alerts, shownText r.id ≠ t.id
  entered : ∀ a, Entered acts a → ∀ r ∈ store.alerts, shownText r.id ≠ a.id
  /-- No name is given to two alerts. -/
  single : ∀ a b, Entered acts a → Entered acts b → a.id = b.id → a = b
  rows : ∀ r ∈ s.store.alerts, ∃ o ∈ originsIn store acts, o.Later r
  found : ∀ b ∈ acts.filterMap Act.found?, ∃ o ∈ originsIn store acts, ∃ r, o.Later r ∧
    r.toAlert = .ok b

variable {store : Store} {acts : List Act} {act : Act} {s s' : Site} {a b : Alert}

theorem mem_originsIn {o : AlertRow} :
    o ∈ originsIn store acts ↔ o ∈ store.alerts ∨ ∃ a, Entered acts a ∧ a.toRow = o := by
  unfold originsIn Entered
  rw [List.mem_append, List.mem_map]

theorem originsIn_subset (store : Store) (acts : List Act) (act : Act) :
    originsIn store acts ⊆ originsIn store (acts ++ [act]) := by
  intro o ho
  rw [mem_originsIn] at ho ⊢
  exact ho.imp_right fun ⟨a, ha, hrow⟩ => ⟨a, entered_snoc.2 (.inl ha), hrow⟩

/-- What a success finds is shown by a row. -/
theorem Store.exists_row_of_found? {st : Store} {t : Task} {q : Query}
    (h : (Act.asked t q (st.answer q).1).found? = some b) :
    ∃ r ∈ st.alerts, r.toAlert = .ok b := by
  cases q with
  | activeAlert checkId =>
    cases hreply : (st.answer (.activeAlert checkId)).1 with
    | error e =>
      rw [hreply] at h
      cases h
    | ok found =>
      rw [hreply] at h
      cases found with
      | none => cases h
      | some a =>
        obtain ⟨r, hr, -, hread⟩ := exists_isOpenFor_of_answer hreply
        obtain ⟨-, rfl⟩ : t.result.success = true ∧ a = b := by simpa [Act.found?] using h
        exact ⟨r, hr, hread⟩
  | _ => cases h

namespace Traced

theorem opened (rules : AlertRules) (streaks : Streaks) (store : Store) :
    Traced store [] (.opened rules streaks store) where
  spent _ hr := List.mem_map_of_mem hr
  holder t rest hs := by cases hs
  entered a ha := by cases ha
  single a b ha := by cases ha
  rows r hr := ⟨r, mem_originsIn.2 (.inl hr), .refl r⟩
  found b hb := by cases hb

/-- An act that enters no alert and finds none but one that a row shows. -/
theorem keep (h : Traced store acts s) (henters : act.entered? = none)
    (hfinds : ∀ b, act.found? = some b → ∃ r ∈ s.store.alerts, r.toAlert = .ok b)
    (hrows : s.Precedes s') (hspent : s.spent ⊆ s'.spent)
    (hholder : ∀ t rest, s'.holder = some (t, rest) → ∀ r ∈ store.alerts, shownText r.id ≠ t.id) :
    Traced store (acts ++ [act]) s' where
  spent r hr := hspent (h.spent r hr)
  holder := hholder
  entered a ha := h.entered a ((entered_snoc_of_none henters).1 ha)
  single a b ha hb :=
    h.single a b ((entered_snoc_of_none henters).1 ha) ((entered_snoc_of_none henters).1 hb)
  rows r' hr' := by
    obtain ⟨r, hr, hlater⟩ := hrows r' hr'
    obtain ⟨o, ho, hfirst⟩ := h.rows r hr
    exact ⟨o, originsIn_subset _ _ _ ho, hfirst.trans hlater⟩
  found b hb := by
    rcases mem_filterMap_snoc.1 hb with hb | hb
    · obtain ⟨o, ho, hrow⟩ := h.found b hb
      exact ⟨o, originsIn_subset _ _ _ ho, hrow⟩
    · obtain ⟨r, hr, hread⟩ := hfinds b hb
      obtain ⟨o, ho, hlater⟩ := h.rows r hr
      exact ⟨o, originsIn_subset _ _ _ ho, r, hlater, hread⟩

/-- An act that enters no alert and finds none. -/
theorem stay (h : Traced store acts s) (henters : act.entered? = none)
    (hfinds : act.found? = none) (hrows : s.Precedes s') (hspent : s.spent ⊆ s'.spent)
    (hholder : ∀ t rest, s'.holder = some (t, rest) → ∀ r ∈ store.alerts, shownText r.id ≠ t.id) :
    Traced store (acts ++ [act]) s' :=
  h.keep henters (by simp [hfinds]) hrows hspent hholder

/-- The call in progress goes on, or ends. -/
theorem goes_on (h : Traced store acts s)
    (htask : ∀ t rest, s'.holder = some (t, rest) → ∃ rest', s.holder = some (t, rest')) :
    ∀ t rest, s'.holder = some (t, rest) → ∀ r ∈ store.alerts, shownText r.id ≠ t.id := by
  intro t rest hs'
  obtain ⟨rest', hs⟩ := htask t rest hs'
  exact h.holder t rest' hs

/-- A call enters an alert under its own name. -/
theorem enter {t : Task} {rest rest' : Script (Option Alert)} {now : Timestamp}
    {why : Option Suppression} (h : Traced store acts s) (hbooks : Books .vacant s acts)
    (hs : s.holder = some (t, rest)) (hs' : s'.holder = some (t, rest'))
    (hstore : s'.store = (s.store.answer (.insertAlert (t.alert now why))).2)
    (hspent : s'.spent = s.spent) :
    Traced store (acts ++ [.asked t (.insertAlert (t.alert now why)) (.ok ())]) s' := by
  have hunused : Unused s acts t.id := (hbooks.pending t rest hs (.inr rfl)).1
  have hentered : ∀ b, Entered (acts ++ [.asked t (.insertAlert (t.alert now why)) (.ok ())]) b →
      Entered acts b ∨ b = t.alert now why := fun b hb =>
    (entered_snoc.1 hb).imp_right fun heq => (Option.some.inj heq).symm
  have hnew : Entered (acts ++ [.asked t (.insertAlert (t.alert now why)) (.ok ())])
      (t.alert now why) := entered_snoc.2 (.inr rfl)
  refine ⟨fun r hr => hspent ▸ h.spent r hr, h.goes_on fun t' rest'' h' => ?_, fun a ha => ?_,
    fun a b ha hb hid => ?_, fun r' hr' => ?_, fun b hb => ?_⟩
  · rw [hs'] at h'
    cases h'
    exact ⟨rest, hs⟩
  · rcases hentered a ha with ha | rfl
    · exact h.entered a ha
    · exact h.holder t rest hs
  · rcases hentered a ha with ha | rfl <;> rcases hentered b hb with hb | rfl
    · exact h.single a b ha hb hid
    · exact absurd hid (hunused.entered a ha)
    · exact absurd hid.symm (hunused.entered b hb)
    · rfl
  · rw [hstore, Store.answer_insertAlert (hbooks.free hs)] at hr'
    rcases List.mem_append.1 hr' with hr' | hr'
    · obtain ⟨o, ho, hlater⟩ := h.rows r' hr'
      exact ⟨o, originsIn_subset _ _ _ ho, hlater⟩
    · rw [List.mem_singleton.1 hr']
      exact ⟨_, mem_originsIn.2 (.inr ⟨_, hnew, rfl⟩), .refl _⟩
  · rcases mem_filterMap_snoc.1 hb with hb | hb
    · obtain ⟨o, ho, hrow⟩ := h.found b hb
      exact ⟨o, originsIn_subset _ _ _ ho, hrow⟩
    · cases hb

/-- **Every step leaves the origins clear.** -/
theorem step {stage : Stage} (h : Traced store acts s) (hbooks : Books stage s acts)
    (hstep : Step s act s') : Traced store (acts ++ [act]) s' := by
  cases hstep with
  | call _ _ | restart _ _ _ => exact h.stay rfl rfl (.of_eq rfl) (fun _ => id) h.holder
  | other hq => exact h.stay rfl rfl (.of_answer hq rfl) (fun _ => id) h.holder
  | leave hs | stop hs =>
    exact h.stay rfl rfl (.of_eq rfl) (fun _ => id) fun _ _ hrest => by cases hrest
  | @enter before after check result id hfree hwaits hnew hplain =>
    refine h.stay rfl rfl (.of_eq rfl) (fun _ => List.mem_cons_of_mem id) ?_
    rintro t rest ⟨⟩ r hr heq
    have hname : shownText r.id = id := heq
    exact hnew (hname ▸ h.spent r hr)
  | @answer t q next hs =>
    cases hq : q.entersAlert with
    | true =>
      cases hbooks.holding.follows t _ hs with
      | lookup _ | resolve _ _ => cases hq
      | look hlooks _ => rw [Query.entersAlert_of_isLookup hlooks] at hq; cases hq
      | @enter now why _ _ _ =>
        have hreply : (s.store.answer (.insertAlert (t.alert now why))).1 = .ok () := by
          rw [Store.answer_insertAlert (hbooks.free hs)]
        rw [hreply]
        exact h.enter hbooks hs rfl rfl rfl
    | false =>
      refine h.keep (Act.entered?_asked hq t _) (fun b => Store.exists_row_of_found?)
        (.of_answer hq rfl) (fun _ => id) (h.goes_on ?_)
      rintro t' rest ⟨⟩
      exact ⟨_, hs⟩
  | @fail t q next hs e =>
    have hact := Act.Quiet.of_failed t q e
    refine h.stay hact.enters hact.finds (.of_eq rfl) (fun _ => id) (h.goes_on ?_)
    rintro t' rest ⟨⟩
    exact ⟨_, hs⟩
  | look hs _ | tell hs =>
    refine h.stay rfl rfl (.of_eq rfl) (fun _ => id) (h.goes_on ?_)
    rintro t' rest ⟨⟩
    exact ⟨_, hs⟩

/-- The name of an alert that was entered is that of no other origin. -/
theorem origin_of_entered (h : Traced store acts s) (hplain : ∀ b, Entered acts b → PlainText b.id)
    (ha : Entered acts a) {o : AlertRow} (ho : o ∈ originsIn store acts)
    (hid : shownText o.id = a.id) : o = a.toRow := by
  rcases mem_originsIn.1 ho with ho | ⟨b, hb, rfl⟩
  · exact absurd hid (h.entered a ha o ho)
  · have hname : b.id = a.id := (shownText_eq_self (hplain b hb)).symm.trans hid
    rw [h.single b a hb ha hname]

end Traced

namespace Run

variable {rules : AlertRules} {streaks : Streaks}

theorem traced (hrun : Run (.opened rules streaks store) acts s) : Traced store acts s := by
  induction hrun with
  | start => exact .opened rules streaks store
  | step hrun hstep ih =>
    obtain ⟨stage, hbooks⟩ := hrun.books
    exact ih.step hbooks hstep

/-- **What is found of an alert that was entered** is the alert, but for its times. -/
theorem found_of_entered (hrun : Run (.opened rules streaks store) acts s) (ha : Entered acts a)
    (hb : b ∈ acts.filterMap Act.found?) (hid : b.id = a.id) (hplain : a.IsPlain) :
    b = { a with
      triggeredAt := .ofMillis a.triggeredAt.toMillis
      resolvedAt := b.resolvedAt
      acknowledgedAt := b.acknowledgedAt } := by
  obtain ⟨stage, hbooks⟩ := hrun.books
  obtain ⟨o, ho, r, hlater, hread⟩ := hrun.traced.found b hb
  have hshown : shownText o.id = a.id := by
    rw [← hlater.id_eq, AlertRow.id_of_toAlert_eq_ok hread, hid]
  obtain rfl : o = a.toRow := hrun.traced.origin_of_entered hbooks.plain ha ho hshown
  have hshows := Except.ok.inj (hread.symm.trans (hlater.toAlert hplain))
  rw [hshows]

/-- **An alert is the same alert when it is over**, but for its times. The moment when it was raised
is told as it was kept, to the millisecond; it is the same exactly if it was a whole one. -/
theorem same_alert (hrun : Run (.opened rules streaks store) acts s) {e e' : Event}
    (he : e ∈ toldIn acts) (he' : e' ∈ toldIn acts) (ha : e.payload = .alert a)
    (hb : e'.payload = .alert b) (hopens : e.topic ≠ Topic.alertResolved)
    (hends : e'.topic = Topic.alertResolved) (hid : b.id = a.id) (hplain : a.IsPlain) :
    b = { a with
        triggeredAt := .ofMillis a.triggeredAt.toMillis
        resolvedAt := b.resolvedAt
        acknowledgedAt := b.acknowledgedAt } ∧
      (a.triggeredAt.isLeap = false → b.triggeredAt = a.triggeredAt.floorMillis) ∧
      (b = { a with resolvedAt := b.resolvedAt, acknowledgedAt := b.acknowledgedAt } ↔
        a.triggeredAt.isLeap = false ∧ a.triggeredAt.nanos % 1000000 = 0) := by
  cases hrun.news e he with
  | resolved _ _ _ => exact absurd rfl hopens
  | raised now hentered =>
    cases ha
    cases hrun.news e' he' with
    | raised _ _ => exact absurd hends (Alert.openingTopic_ne _)
    | @resolved found time later hfound =>
      cases hb
      have hsame := hrun.found_of_entered hentered hfound hid hplain
      have htriggered : found.triggeredAt = .ofMillis a.triggeredAt.toMillis :=
        congrArg Alert.triggeredAt hsame
      rw [← Timestamp.ofMillis_toMillis_eq_self_iff]
      refine ⟨?_, fun hleap => htriggered.trans (Timestamp.ofMillis_toMillis hleap),
        fun hwhole => ?_, fun hmillis => ?_⟩
      · rw [hsame]
      · have hkept := congrArg Alert.triggeredAt hwhole
        exact htriggered.symm.trans hkept
      · rw [hsame, hmillis]

/-- An alert that is raised half a millisecond after noon, and the event of its end. -/
theorem exists_raised_at_noon : ∃ (acts : List Act) (s : Site) (a b : Alert) (e e' : Event),
    Run (.opened (.create 1 none false) .empty .empty) acts s ∧ e ∈ toldIn acts ∧
      e' ∈ toldIn acts ∧ e.payload = .alert a ∧ e'.payload = .alert b ∧
      e.topic = Topic.alertTriggered ∧ e'.topic = Topic.alertResolved ∧ b.id = a.id ∧
      a.IsPlain ∧ a.triggeredAt.isLeap = false ∧ b.triggeredAt ≠ a.triggeredAt := by
  let noon : Timestamp := ⟨1740916800, 500000, by omega, by omega, by omega⟩
  let check : Check := .create "check-1" "device-1" "http" "http://device-1/" .epoch
  let w : World := ⟨noon, .sound, fun _ => .unreachable⟩
  let s₀ := Site.opened (.create 1 none false) .empty .empty
  let calls := [(CheckResult.failed check "timeout" .epoch, "alert-1"),
    (CheckResult.passed check 1 .epoch, "alert-2")]
  let acts := s₀.actsOfCalls w check calls
  have hrun : Run s₀ acts _ := Run.calls rfl check calls rfl (by decide) (by decide) (by decide)
  let a := (s₀.task check (.failed check "timeout" .epoch) "alert-1").alert noon none
  let b : Alert := { a with triggeredAt := .ofMillis noon.toMillis }
  have htold : toldIn acts = [a.opening noon, b.ending noon noon] := by
    dsimp only [acts, calls, s₀, w, check, a, b, noon]
    cbv
  have hplain : a.IsPlain := ⟨by decide, by decide, by decide, by decide, by rintro _ ⟨⟩⟩
  refine ⟨acts, _, a, { b with resolvedAt := some noon }, a.opening noon, b.ending noon noon, hrun,
    ?_, ?_, rfl, rfl, rfl, rfl, rfl, hplain, rfl, by decide⟩
  · rw [htold]
    exact List.mem_cons_self
  · rw [htold]
    exact List.mem_cons_of_mem _ List.mem_cons_self

theorem same_alert_of_noon : ∃ (acts : List Act) (s : Site) (a b : Alert) (e e' : Event),
    Run (.opened (.create 1 none false) .empty .empty) acts s ∧ e ∈ toldIn acts ∧
      e' ∈ toldIn acts ∧ e.payload = .alert a ∧ e'.payload = .alert b ∧
      b.triggeredAt = a.triggeredAt.floorMillis ∧ b.checkId = a.checkId := by
  obtain ⟨acts, s, a, b, e, e', hrun, he, he', ha, hb, hopens, hends, hid, hplain, hleap, -⟩ :=
    exists_raised_at_noon
  have hopens' : e.topic ≠ Topic.alertResolved := by
    rw [hopens]
    decide
  obtain ⟨hsame, hfloor, -⟩ := hrun.same_alert he he' ha hb hopens' hends hid hplain
  refine ⟨acts, s, a, b, e, e', hrun, he, he', ha, hb, hfloor hleap, ?_⟩
  rw [hsame]

/-- The moment when an alert was raised is not told alike in all its events. -/
theorem not_same_triggeredAt : ¬ ∀ (rules : AlertRules) (streaks : Streaks) (store : Store)
    (acts : List Act) (s : Site) (e e' : Event) (a b : Alert),
    Run (.opened rules streaks store) acts s → e ∈ toldIn acts → e' ∈ toldIn acts →
      e.payload = .alert a → e'.payload = .alert b → e.topic ≠ Topic.alertResolved →
      e'.topic = Topic.alertResolved → b.id = a.id → a.IsPlain →
      b = { a with resolvedAt := b.resolvedAt, acknowledgedAt := b.acknowledgedAt } := by
  intro h
  obtain ⟨acts, s, a, b, e, e', hrun, he, he', ha, hb, hopens, hends, hid, hplain, -, hmoved⟩ :=
    exists_raised_at_noon
  have hopens' : e.topic ≠ Topic.alertResolved := by
    rw [hopens]
    decide
  refine hmoved ?_
  rw [h _ _ _ acts s e e' a b hrun he he' ha hb hopens' hends hid hplain]

end Run

end NetWatch
