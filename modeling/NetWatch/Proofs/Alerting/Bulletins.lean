/-
NetWatch.Proofs.Alerting.Bulletins — what Alertmanager receivers are told in the course of time
(`AlertmanagerNotifier::notify`).

A bulletin takes its status from the topic of the event, its end from the alert
that the event carries, and its labels from that alert as well; the first two
agree because of what the alerter tells, not because of how a bulletin is made.
An alert that is told to be raised is the one that a call made up, with no end
(`Authored`), and one that is told to be over carries the moment at which a
success resolved it (`Run.endings`).

A receiver takes bulletins with the same labels for one series. The first
bulletin about an alert has them from the call, the last from the row that the
alert was kept in; `Run.labels_eq` says that they are the same.

`Attended.bulletins` is what a receiver can rely on.
-/
import NetWatch.Proofs.Alerting.Endings
import NetWatch.Proofs.Alerting.Origin
import NetWatch.Proofs.Notification.Bulletin

namespace NetWatch

/-! ## Labels that are kept -/

/-- A row shows the name of an alert, and its labels. -/
structure AlertRow.Labels (r : AlertRow) (a : Alert) : Prop where
  id : shownText r.id = a.id
  labels : r.toAlert.map Payload.labels = .ok (Payload.labels a)

/-- What happens to a row later leaves its labels. -/
theorem AlertRow.Later.labels {r r' : AlertRow} (h : r.Later r') :
    r'.toAlert.map Payload.labels = r.toAlert.map Payload.labels := by
  rw [h.1]
  unfold AlertRow.toAlert
  dsimp only
  cases Severity.named? (shownText r.severity) <;> rfl

theorem Alert.labels_toRow {a : Alert} (hid : PlainText a.id) (hcheck : PlainText a.checkId)
    (hdevice : PlainText a.deviceId) : a.toRow.Labels a := by
  refine ⟨shownText_eq_self hid, ?_⟩
  unfold AlertRow.toAlert toRow
  simp only [Severity.named?_shownText, shownText_eq_self hcheck, shownText_eq_self hdevice]
  rfl

/-! ## Who raised an alert -/

variable {store : Store} {acts : List Act} {act : Act} {s s' : Site} {a b : Alert}

/-- Whoever waits or is served has called, and every alert that was entered is the one that a call
made up. -/
structure Authored (acts : List Act) (s : Site) : Prop where
  waiting : ∀ check result, (check, result) ∈ s.waiting → .called check result ∈ acts
  holder : ∀ t rest, s.holder = some (t, rest) → .called t.check t.result ∈ acts
  entered : ∀ a, Entered acts a → ∃ (t : Task) (now : Timestamp) (why : Option Suppression),
    .called t.check t.result ∈ acts ∧ a = t.alert now why

namespace Authored

theorem opened (rules : AlertRules) (streaks : Streaks) (store : Store) :
    Authored [] (.opened rules streaks store) where
  waiting _ _ hmem := by cases hmem
  holder _ _ hs := by cases hs
  entered _ ha := by cases ha

/-- An act that enters an alert only if it is the one of a call. -/
theorem keep (h : Authored acts s)
    (hwaiting : ∀ check result, (check, result) ∈ s'.waiting →
      .called check result ∈ acts ++ [act])
    (hholder : ∀ t rest, s'.holder = some (t, rest) → .called t.check t.result ∈ acts)
    (hentered : ∀ a, act.entered? = some a →
      ∃ (t : Task) (now : Timestamp) (why : Option Suppression),
        .called t.check t.result ∈ acts ∧ a = t.alert now why) :
    Authored (acts ++ [act]) s' where
  waiting := hwaiting
  holder t rest hs := List.mem_append_left _ (hholder t rest hs)
  entered a ha := by
    obtain ⟨t, now, why, hcalled, heq⟩ := (entered_snoc.1 ha).elim (h.entered a) (hentered a)
    exact ⟨t, now, why, List.mem_append_left _ hcalled, heq⟩

/-- An act that enters nothing and lets nobody in. -/
theorem stay (h : Authored acts s) (henters : act.entered? = none) (hwaits : s'.waiting = s.waiting)
    (hholder : ∀ t rest, s'.holder = some (t, rest) → ∃ rest', s.holder = some (t, rest')) :
    Authored (acts ++ [act]) s' := by
  refine h.keep (fun check result hmem => ?_) (fun t rest hs => ?_) (by simp [henters])
  · rw [hwaits] at hmem
    exact List.mem_append_left _ (h.waiting check result hmem)
  · obtain ⟨rest', hs'⟩ := hholder t rest hs
    exact h.holder t rest' hs'

/-- A query of the call in progress. -/
theorem asked {stage : Stage} {t : Task} {q : Query} {next : q.Reply → Script (Option Alert)}
    (h : Authored acts s) (hfollows : Follows t stage (.ask q next))
    (hs : s.holder = some (t, .ask q next)) (r : q.Reply) {rest : Script (Option Alert)}
    (hs' : s'.holder = some (t, rest)) (hwaits : s'.waiting = s.waiting) :
    Authored (acts ++ [.asked t q r]) s' := by
  have hcalled := h.holder t _ hs
  refine h.keep (fun check result hmem => ?_) (fun t' rest' hrest => ?_) (fun a ha => ?_)
  · rw [hwaits] at hmem
    exact List.mem_append_left _ (h.waiting check result hmem)
  · rw [hs'] at hrest
    cases hrest
    exact hcalled
  · cases hfollows with
    | lookup _ | resolve _ _ => cases ha
    | look hq _ =>
      rw [Act.entered?_asked (Query.entersAlert_of_isLookup hq)] at ha
      cases ha
    | @enter now why _ _ _ =>
      cases r with
      | error e => cases ha
      | ok _ =>
        cases ha
        exact ⟨t, now, why, hcalled, rfl⟩

theorem step {stage : Stage} (h : Authored acts s) (hbooks : Books stage s acts)
    (hstep : Step s act s') : Authored (acts ++ [act]) s' := by
  cases hstep with
  | call check result =>
    refine h.keep (fun check' result' hmem => ?_) h.holder (by rintro _ ⟨⟩)
    rcases List.mem_cons.1 hmem with heq | hmem
    · cases heq
      exact List.mem_append_right _ (List.mem_singleton.2 rfl)
    · exact List.mem_append_left _ (h.waiting check' result' hmem)
  | @enter before after check result id hfree hwaits hnew hplain =>
    refine h.keep (fun check' result' hmem => ?_) ?_ (by rintro _ ⟨⟩)
    · refine List.mem_append_left _ (h.waiting check' result' ?_)
      rw [hwaits]
      exact List.mem_append.2 ((List.mem_append.1 hmem).imp_right (List.mem_cons_of_mem _))
    · rintro t rest ⟨⟩
      refine h.waiting check result ?_
      rw [hwaits]
      exact List.mem_append_right _ List.mem_cons_self
  | @answer t q next hs =>
    exact h.asked (hbooks.holding.follows t _ hs) hs _ rfl rfl
  | @fail t q next hs e =>
    exact h.asked (hbooks.holding.follows t _ hs) hs _ rfl rfl
  | look hs _ | tell hs =>
    refine h.stay rfl rfl ?_
    rintro t rest ⟨⟩
    exact ⟨_, hs⟩
  | leave _ | stop _ => exact h.stay rfl rfl (by rintro _ _ ⟨⟩)
  | other _ | restart _ _ _ => exact h.stay rfl rfl fun _ rest hs => ⟨rest, hs⟩

end Authored

/-- The origins show different names if the rows did that were there. -/
theorem Traced.origin_unique (h : Traced store acts s)
    (hplain : ∀ b, Entered acts b → PlainText b.id)
    (hnames : (store.alerts.map fun r => shownText r.id).Nodup) {o o' : AlertRow}
    (ho : o ∈ originsIn store acts) (ho' : o' ∈ originsIn store acts)
    (hid : shownText o.id = shownText o'.id) : o = o' := by
  rcases mem_originsIn.1 ho with hrow | ⟨a, ha, rfl⟩
  · rcases mem_originsIn.1 ho' with hrow' | ⟨b, hb, rfl⟩
    · exact List.inj_on_of_nodup_map hnames hrow hrow' hid
    · exact h.origin_of_entered hplain hb ho (hid.trans (shownText_eq_self (hplain b hb)))
  · have hname : shownText o'.id = a.id := hid.symm.trans (shownText_eq_self (hplain a ha))
    exact (h.origin_of_entered hplain ha ho' hname).symm

namespace Run

variable {rules : AlertRules} {streaks : Streaks} {e e' : Event}

theorem authored (hrun : Run (.opened rules streaks store) acts s) : Authored acts s := by
  induction hrun with
  | start => exact .opened rules streaks store
  | step hrun hstep ih =>
    obtain ⟨stage, hbooks⟩ := hrun.books
    exact ih.step hbooks hstep

/-- An alert that is told has the labels of its origin. -/
theorem exists_labels (hrun : Run (.opened rules streaks store) acts s)
    (hcalled : ∀ check result, .called check result ∈ acts →
      PlainText check.id ∧ PlainText check.deviceId)
    (he : e ∈ toldIn acts) (ha : e.payload = .alert a) :
    ∃ o ∈ originsIn store acts, o.Labels a := by
  cases hrun.news e he with
  | raised now hentered =>
    cases ha
    obtain ⟨stage, hbooks⟩ := hrun.books
    obtain ⟨t, time, why, hcall, heq⟩ := hrun.authored.entered a hentered
    obtain ⟨hcheck, hdevice⟩ := hcalled _ _ hcall
    refine ⟨a.toRow, mem_originsIn.2 (.inr ⟨a, hentered, rfl⟩),
      Alert.labels_toRow (hbooks.plain a hentered) ?_ ?_⟩ <;> rwa [heq]
  | @resolved found time now hfound =>
    cases ha
    obtain ⟨o, ho, r, hlater, hread⟩ := hrun.traced.found found hfound
    have hname : shownText o.id = found.id := by
      rw [← hlater.id_eq, AlertRow.id_of_toAlert_eq_ok hread]
    refine ⟨o, ho, hname, ?_⟩
    rw [← hlater.labels, hread]
    rfl

/-- **The labels of an alert are the same whenever it is told.** -/
theorem labels_eq (hrun : Run (.opened rules streaks store) acts s)
    (hnames : (store.alerts.map fun r => shownText r.id).Nodup)
    (hcalled : ∀ check result, .called check result ∈ acts →
      PlainText check.id ∧ PlainText check.deviceId)
    (he : e ∈ toldIn acts) (he' : e' ∈ toldIn acts) (ha : e.payload = .alert a)
    (hb : e'.payload = .alert b) (hid : a.id = b.id) : Payload.labels a = Payload.labels b := by
  obtain ⟨stage, hbooks⟩ := hrun.books
  obtain ⟨o, ho, hlabels⟩ := hrun.exists_labels hcalled he ha
  obtain ⟨o', ho', hlabels'⟩ := hrun.exists_labels hcalled he' hb
  have hname : shownText o.id = shownText o'.id := by rw [hlabels.id, hid, hlabels'.id]
  obtain rfl := hrun.traced.origin_unique hbooks.plain hnames ho ho' hname
  exact Except.ok.inj (hlabels.labels.symm.trans hlabels'.labels)

/-- An alert that is told to be raised has no end. -/
theorem resolvedAt_of_triggered (hrun : Run (.opened rules streaks store) acts s)
    (he : e ∈ toldIn acts) (htopic : e.topic = Topic.alertTriggered) (ha : e.payload = .alert a) :
    a.resolvedAt = none := by
  cases hrun.news e he with
  | raised now hentered =>
    cases ha
    obtain ⟨t, time, why, -, rfl⟩ := hrun.authored.entered a hentered
    rfl
  | resolved _ _ _ =>
    have htopics : Topic.alertResolved = Topic.alertTriggered := htopic
    exact absurd htopics (by decide)

/-- An alert that is told to be over ends when a success resolved it. -/
theorem endsAt_of_resolved (hrun : Run (.opened rules streaks store) acts s)
    (hclock : ∀ t now, .looked t now ∈ acts → Timestamp.epoch ≤ now) (he : e ∈ toldIn acts)
    (htopic : e.topic = Topic.alertResolved) (ha : e.payload = .alert a) :
    Payload.endsAt a ≠ Payload.noEnd ∧
      ∃ t time, ResolvedBy acts t a.id time ∧ Payload.endsAt a = Rfc3339.format time := by
  obtain ⟨a', t, time, hpayload, hresolved, hby⟩ := hrun.endings he htopic
  obtain rfl : a' = a := Payload.alert.inj (hpayload.symm.trans ha)
  have hends : Payload.endsAt a' = Rfc3339.format time := by
    unfold Payload.endsAt
    rw [hresolved]
  refine ⟨?_, t, time, hby, hends⟩
  rw [hends]
  exact Rfc3339.format_ne_noEnd (hclock t time hby.looked)

end Run

/-! ## What receivers are told -/

namespace Post

/-- An Alertmanager receiver is told of an alert. -/
def Tells (p : Post) (a : Alert) : Prop :=
  p.event.payload = .alert a ∧ ∃ c now orders, Channel.channelType c = "alertmanager" ∧
    c.request? orders a (.ofTopic p.event.topic) now = some p.request

/-- What the receiver reads. -/
def bulletin? (p : Post) : Option Bulletin :=
  (Json.readText? Bulletin.read p.request.body).toOption

theorem Tells.bulletin?_eq {p : Post} (h : p.Tells a) :
    p.bulletin? = some ⟨Payload.status (.ofTopic p.event.topic),
      [Bulletin.entryOf a (.ofTopic p.event.topic)]⟩ := by
  obtain ⟨-, c, now, orders, htype, hrequest⟩ := h
  unfold bulletin?
  rw [Channel.readText?_of_request? htype hrequest]
  rfl

end Post

/-- Whether what is said of the alert of a name is what happened: it fires exactly if its end is
none, and otherwise it is resolved and ends when a success resolved it. -/
structure Bulletin.Entry.Fits (acts : List Act) (id : String) (entry : Bulletin.Entry) : Prop where
  firing : entry.status = "firing" ↔ entry.endsAt = Payload.noEnd
  resolved : entry.status ≠ "firing" → entry.status = "resolved" ∧
    ∃ t time, ResolvedBy acts t id time ∧ entry.endsAt = Rfc3339.format time

namespace Attended

variable {rules : AlertRules} {streaks : Streaks} {n : Nat} {posts : List Post}

/-- A bulletin has the status of its one alert, and that is what happened. -/
theorem exists_entry (h : Attended (.opened rules streaks store) acts s n posts)
    (hclock : ∀ t now, .looked t now ∈ acts → Timestamp.epoch ≤ now) {p : Post} (hp : p ∈ posts)
    (htells : p.Tells a) :
    ∃ entry, p.bulletin? = some ⟨entry.status, [entry]⟩ ∧ entry.Fits acts a.id := by
  obtain ⟨htold, htopics, -⟩ := h.exists_of_mem_posts hp
  refine ⟨Bulletin.entryOf a (.ofTopic p.event.topic), htells.bulletin?_eq, ?_⟩
  unfold Bulletin.entryOf
  rcases htopics with htopic | htopic
  · have hopen := h.run.resolvedAt_of_triggered htold htopic htells.1
    have hends : Payload.endsAt a = Payload.noEnd := by
      unfold Payload.endsAt
      rw [hopen]
    rw [htopic, Transition.ofTopic_alertTriggered]
    exact ⟨iff_of_true rfl hends, fun hne => absurd rfl hne⟩
  · obtain ⟨hne, t, time, hby, hends⟩ := h.run.endsAt_of_resolved hclock htold htopic htells.1
    have hstatus : Payload.status .resolved ≠ "firing" := by decide
    rw [htopic, Transition.ofTopic_alertResolved]
    exact ⟨iff_of_false hstatus hne, fun _ => ⟨rfl, t, time, hby, hends⟩⟩

/-- Two bulletins about an alert have the same labels. -/
theorem labels_of_tells (h : Attended (.opened rules streaks store) acts s n posts)
    (hnames : (store.alerts.map fun r => shownText r.id).Nodup)
    (hcalled : ∀ check result, .called check result ∈ acts →
      PlainText check.id ∧ PlainText check.deviceId)
    {p p' : Post} (hp : p ∈ posts) (hp' : p' ∈ posts) (htells : p.Tells a) (htells' : p'.Tells b)
    (hid : a.id = b.id) {bulletin bulletin' : Bulletin} (hread : p.bulletin? = some bulletin)
    (hread' : p'.bulletin? = some bulletin') :
    bulletin.entries.map (·.labels) = bulletin'.entries.map (·.labels) := by
  have hlabels := h.run.labels_eq hnames hcalled (h.exists_of_mem_posts hp).1
    (h.exists_of_mem_posts hp').1 htells.1 htells'.1 hid
  rw [htells.bulletin?_eq] at hread
  rw [htells'.bulletin?_eq] at hread'
  cases hread
  cases hread'
  exact congrArg (fun labels => [labels]) hlabels

/-- Every receiver that can be told of the next event is told when the event is taken up. -/
theorem heed_tells (h : Attended (.opened rules streaks store) acts s n posts) {e : Event}
    (hnext : (toldIn acts)[n]? = some e)
    (htopic : e.topic = Topic.alertTriggered ∨ e.topic = Topic.alertResolved)
    (he : e.payload = .alert a) {w : World} (hw : w.backend.Honest) (orders : Enumeration) :
    ∃ news, Attended (.opened rules streaks store) acts s (n + 1) (posts ++ news) ∧
      ∀ c ∈ w.channels s.store, c.channelType = "alertmanager" →
        ∀ r, c.request? orders a (.ofTopic e.topic) w.now = some r →
          ⟨e, r⟩ ∈ news ∧ Post.Tells ⟨e, r⟩ a := by
  refine ⟨_, h.heed_alert hnext he hw orders, fun c hc htype r hr => ?_⟩
  have hrequest : r ∈ e.requests orders a w.now (w.channels s.store) := by
    unfold Event.requests
    rw [if_pos htopic]
    exact List.mem_filterMap.2 ⟨c, hc, hr⟩
  exact ⟨List.mem_map_of_mem hrequest, he, c, w.now, orders, htype, hr⟩

/-- **Bulletins match up.**

Each of them has the status of its one alert. The alert is firing exactly if its
end is none; otherwise it is resolved, and ends when a success resolved it. All
bulletins about an alert have the same labels. And every receiver that can be
told is sent its bulletin when the next event is taken up that announces an alert
or its end.

The rows that were there at the start show different names, as rows of plain
names do, and the clock is one that shows no moment before 1970. -/
theorem bulletins (h : Attended (.opened rules streaks store) acts s n posts)
    (hnames : (store.alerts.map fun r => shownText r.id).Nodup)
    (hcalled : ∀ check result, .called check result ∈ acts →
      PlainText check.id ∧ PlainText check.deviceId)
    (hclock : ∀ t now, .looked t now ∈ acts → Timestamp.epoch ≤ now) :
    (∀ p ∈ posts, ∀ a, p.Tells a →
      ∃ entry, p.bulletin? = some ⟨entry.status, [entry]⟩ ∧ entry.Fits acts a.id) ∧
    (∀ p ∈ posts, ∀ p' ∈ posts, ∀ a a', p.Tells a → p'.Tells a' → a.id = a'.id →
      ∀ b b', p.bulletin? = some b → p'.bulletin? = some b' →
        b.entries.map (·.labels) = b'.entries.map (·.labels)) ∧
    ∀ e, (toldIn acts)[n]? = some e →
      e.topic = Topic.alertTriggered ∨ e.topic = Topic.alertResolved →
      ∀ a, e.payload = .alert a → ∀ w : World, w.backend.Honest → ∀ orders,
        ∃ news, Attended (.opened rules streaks store) acts s (n + 1) (posts ++ news) ∧
          ∀ c ∈ w.channels s.store, c.channelType = "alertmanager" →
            ∀ r, c.request? orders a (.ofTopic e.topic) w.now = some r →
              ⟨e, r⟩ ∈ news ∧ Post.Tells ⟨e, r⟩ a := by
  refine ⟨fun p hp a htells => h.exists_entry hclock hp htells, ?_, ?_⟩
  · intro p hp p' hp' a a' htells htells' hid b b' hread hread'
    exact h.labels_of_tells hnames hcalled hp hp' htells htells' hid hread hread'
  · intro e hnext htopic a he w hw orders
    exact h.heed_tells hnext htopic he hw orders

/-- A receiver that is told of an outage when it begins and when it is over. -/
theorem exists_outage : ∃ (store : Store) (acts : List Act) (s : Site) (p p' : Post) (a b : Alert),
    Attended (.opened (.create 1 none false) .empty store) acts s 2 [p, p'] ∧
      p.Tells a ∧ p'.Tells b ∧ a.id = b.id ∧ p.event.topic = Topic.alertTriggered ∧
      p'.event.topic = Topic.alertResolved ∧ store.alerts = [] ∧
      (∀ check result, .called check result ∈ acts →
        PlainText check.id ∧ PlainText check.deviceId) ∧
      ∀ t now, .looked t now ∈ acts → now = .epoch := by
  let check : Check := .create "check-1" "device-1" "http" "http://device-1/" .epoch
  let w : World := ⟨.epoch, .sound, fun _ => .unreachable⟩
  let channel : Channel := ⟨"channel-1", "ops", "alertmanager",
    (AlertmanagerConfig.toJson ⟨"http://ops/", none⟩).text, true, .epoch, .epoch⟩
  let store : Store := { Store.empty with channels := [channel.toRow] }
  let s₀ := Site.opened (.create 1 none false) .empty store
  let calls := [(CheckResult.failed check "timeout" .epoch, "alert-1"),
    (CheckResult.passed check 1 .epoch, "alert-2")]
  let acts := s₀.actsOfCalls w check calls
  let s := s₀.afterCalls w check calls
  let a := (s₀.task check (.failed check "timeout" .epoch) "alert-1").alert .epoch none
  let b : Alert := { a with resolvedAt := some .epoch }
  have hrun : Run s₀ acts s := Run.calls rfl check calls rfl (by decide) (by decide) (by decide)
  have htold : toldIn acts = [a.opening .epoch, a.ending .epoch .epoch] := by
    dsimp only [acts, calls, s₀, store, channel, a, w, check]
    cbv
  have hchannels : w.channels s.store = [channel] := by
    dsimp only [s, calls, s₀, store, channel, w, check]
    cbv
  have haddress : Http.address? "http://ops/" = some "http://ops/" := by decide +kernel
  have hchannel := Notifier.ofChannel_alertmanager (c := channel) rfl (by decide) rfl
  obtain ⟨r, hr⟩ := Channel.exists_request? .asWritten hchannel rfl haddress a
    (.ofTopic (a.opening .epoch).topic) .epoch
  obtain ⟨r', hr'⟩ := Channel.exists_request? .asWritten hchannel rfl haddress b
    (.ofTopic (a.ending .epoch .epoch).topic) .epoch
  have hopens : (a.opening .epoch).requests .asWritten a w.now (w.channels s.store) = [r] := by
    rw [hchannels]
    exact (if_pos (.inl rfl)).trans (List.filterMap_cons_some hr)
  have hends : (a.ending .epoch .epoch).requests .asWritten b w.now (w.channels s.store) =
      [r'] := by
    rw [hchannels]
    exact (if_pos (.inr rfl)).trans (List.filterMap_cons_some hr')
  have hfirst := (of_run hrun).heed_alert (a := a) (by rw [htold]; rfl) rfl (w := w)
    Backend.honest_sound .asWritten
  have hsecond := hfirst.heed_alert (a := b) (by rw [htold]; rfl) rfl (w := w)
    Backend.honest_sound .asWritten
  rw [hopens, hends] at hsecond
  refine ⟨store, acts, s, _, _, a, b, hsecond, ⟨rfl, channel, .epoch, _, rfl, hr⟩,
    ⟨rfl, channel, .epoch, _, rfl, hr'⟩, rfl, rfl, rfl, rfl, fun check' result hmem => ?_,
    fun t now hmem => (Site.of_mem_actsOfCalls hmem).2 t now rfl⟩
  obtain rfl := (Site.of_mem_actsOfCalls hmem).1 check' result rfl
  decide

theorem bulletins_of_outage : ∃ (store : Store) (acts : List Act) (s : Site) (p p' : Post)
    (entry entry' : Bulletin.Entry),
    Attended (.opened (.create 1 none false) .empty store) acts s 2 [p, p'] ∧
      p.bulletin? = some ⟨"firing", [entry]⟩ ∧ p'.bulletin? = some ⟨"resolved", [entry']⟩ ∧
      entry.endsAt = Payload.noEnd ∧ entry'.endsAt = Rfc3339.format .epoch ∧
      entry.labels = entry'.labels := by
  obtain ⟨store, acts, s, p, p', a, b, h, htells, htells', hid, htopic, htopic', hempty, hcalled,
    hclock⟩ := exists_outage
  have hnames : (store.alerts.map fun r => shownText r.id).Nodup := by
    rw [hempty]
    exact List.nodup_nil
  obtain ⟨hmatch, hlabels, -⟩ := h.bulletins hnames hcalled fun t now hmem => by
    rw [hclock t now hmem]
    exact .inr ⟨rfl, Nat.le_refl _⟩
  have hp : p ∈ [p, p'] := List.mem_cons_self
  have hp' : p' ∈ [p, p'] := List.mem_cons_of_mem _ List.mem_cons_self
  obtain ⟨entry, hread, hfits⟩ := hmatch p hp a htells
  obtain ⟨entry', hread', hfits'⟩ := hmatch p' hp' b htells'
  have hsame := hlabels p hp p' hp' a b htells htells' hid _ _ hread hread'
  have hstatus : entry.status = "firing" := by
    have heq := hread.symm.trans htells.bulletin?_eq
    rw [htopic, Transition.ofTopic_alertTriggered] at heq
    exact congrArg Bulletin.status (Option.some.inj heq)
  have hstatus' : entry'.status = "resolved" := by
    have heq := hread'.symm.trans htells'.bulletin?_eq
    rw [htopic', Transition.ofTopic_alertResolved] at heq
    exact congrArg Bulletin.status (Option.some.inj heq)
  have hends := hfits.firing.1 hstatus
  obtain ⟨-, t, time, hby, hends'⟩ := hfits'.resolved (by rw [hstatus']; decide)
  rw [hstatus] at hread
  rw [hstatus'] at hread'
  rw [hclock t time hby.looked] at hends'
  exact ⟨store, acts, s, p, p', entry, entry', h, hread, hread', hends, hends',
    List.head_eq_of_cons_eq hsame⟩

end Attended

end NetWatch
