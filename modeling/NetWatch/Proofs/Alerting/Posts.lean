/-
NetWatch.Proofs.Alerting.Posts — alerts, and the requests that are made about them
(`EventListener::handle`).

A listener takes up what the calls of the alerter tell, one event after the
other, at any time after it was told (`Attended`). Two things are told: that an
alert was entered, and that one is resolved which a success found open
(`Run.news`). That an alert was entered suppressed has a topic of its own, which
the listener lets pass; that it is resolved has not. So nobody is told when such
an alert is raised, and everybody when it is over
(`not_silent_of_suppressed`).

`Attended.posts_of_alerts` says for every run which alerts requests are made
about, and that none of the requests about the end of an alert is left out,
suppressed or not.
-/
import NetWatch.Proofs.Alerting.Story
import NetWatch.Proofs.Notification.Announcing

namespace NetWatch

/-! ## What is told -/

/-- What a call of the alerter may tell: that an alert was entered, or that one is
resolved which a success found open. -/
inductive News (acts : List Act) : Event → Prop where
  | raised {a : Alert} (now : Timestamp) (ha : Entered acts a) : News acts (a.opening now)
  | resolved {a : Alert} (time now : Timestamp) (ha : a ∈ acts.filterMap Act.found?) :
    News acts (a.ending time now)

theorem Alert.suppressed_eq_false_of_openingTopic {a : Alert}
    (h : a.openingTopic = Topic.alertTriggered) : a.suppressed = false := by
  cases hsuppressed : a.suppressed with
  | false => rfl
  | true => simp [openingTopic, hsuppressed, Topic.alertSuppressed, Topic.alertTriggered] at h

/-- What happened accounts for the alert that a call is busy with. -/
def Stage.Justified (acts : List Act) : Stage → Prop
  | .begun | .vacant | .over => True
  | .raised a => Entered acts a
  | .found a | .closed a _ => a ∈ acts.filterMap Act.found?

variable {acts : List Act} {act : Act} {e : Event} {stage : Stage} {t : Task}

theorem News.exists_payload (h : News acts e) : ∃ a, e.payload = .alert a := by
  cases h <;> exact ⟨_, rfl⟩

namespace Stage.Justified

theorem mono (h : stage.Justified acts) (act : Act) : stage.Justified (acts ++ [act]) := by
  cases stage with
  | raised a => exact entered_snoc.2 (.inl h)
  | found a | closed a time => exact mem_filterMap_snoc.2 (.inl h)
  | _ => trivial

theorem of_subject?_eq_none (h : stage.subject? = none) : stage.Justified acts := by
  cases stage with
  | raised a | found a | closed a time => cases h
  | _ => trivial

end Stage.Justified

/-- A query of a call accounts for the alert that the call is busy with after it. -/
theorem Follows.exists_justified {q : Query} {next : q.Reply → Script (Option Alert)}
    (h : Follows t stage (.ask q next)) (hstage : stage.Justified acts) (r : q.Reply) :
    ∃ stage', Follows t stage' (next r) ∧ stage'.Justified (acts ++ [.asked t q r]) := by
  cases h with
  | lookup hnext =>
    refine ⟨_, hnext r, ?_⟩
    rcases t.afterLookup_cases r with ⟨a, hfound⟩ | hnone
    · obtain ⟨rfl, hpassed⟩ := Task.of_afterLookup_eq_found hfound
      rw [hfound]
      exact mem_filterMap_snoc.2 (.inr (by simp [Act.found?, hpassed]))
    · exact .of_subject?_eq_none hnone
  | look hq hnext => exact ⟨_, hnext r, trivial⟩
  | enter hfail hok =>
    cases r with
    | error error => exact ⟨_, hfail error, trivial⟩
    | ok _ => exact ⟨_, hok, entered_snoc.2 (.inr rfl)⟩
  | resolve hfail hok =>
    cases r with
    | error error => exact ⟨_, hfail error, trivial⟩
    | ok _ => exact ⟨_, hok, mem_filterMap_snoc.2 (.inl hstage)⟩

/-- What happened accounts for the alert that a call is busy with, all along. -/
theorem Stage.Justified.carried : Carried fun acts _ stage => stage.Justified acts where
  mono act h := h.mono act
  begun := trivial
  settled := trivial
  ask r hfollows h := hfollows.exists_justified h r

namespace Run

variable {rules : AlertRules} {streaks : Streaks} {store : Store} {s : Site}

/-- **Whatever is told is news of an alert.** -/
theorem news (hrun : Run (.opened rules streaks store) acts s) :
    ∀ e ∈ toldIn acts, News acts e := by
  intro e he
  obtain ⟨t, stage, next, hfollows, hstage⟩ := Stage.Justified.carried.told rfl hrun he
  cases hfollows with
  | tellOpening _ => exact .raised _ hstage
  | tellEnding _ => exact .resolved _ _ hstage

end Run

/-! ## Somebody listens -/

/-- A request, and the event that it was made for. -/
structure Post where
  event : Event
  request : Http.Request

/-- What may have happened since a site was opened where somebody listens: what was
done, the site, how many of the events were taken up, and the requests that were
made. -/
inductive Attended (s₀ : Site) : List Act → Site → Nat → List Post → Prop where
  | start : Attended s₀ [] s₀ 0 []
  | step {acts : List Act} {act : Act} {s s' : Site} {n : Nat} {posts : List Post}
    (h : Attended s₀ acts s n posts) (hstep : Step s act s') :
    Attended s₀ (acts ++ [act]) s' n posts
  /-- The next event is taken up. -/
  | heed {acts : List Act} {s : Site} {n : Nat} {posts : List Post} {e : Event}
    (h : Attended s₀ acts s n posts) (hnext : (toldIn acts)[n]? = some e) {w : World}
    (hw : w.backend.Honest) (orders : Enumeration) (id : String) :
    Attended s₀ acts { s with store := ((Listener.handle orders e id).run w s.store).store } (n + 1)
      (posts ++ ((Listener.handle orders e id).run w s.store).requests.map (Post.mk e))

namespace Attended

variable {s₀ s : Site} {n : Nat} {posts : List Post} {a : Alert}

theorem of_run (h : Run s₀ acts s) : Attended s₀ acts s 0 [] := by
  induction h with
  | start => exact .start
  | step _ hstep ih => exact ih.step hstep

/-- Taking up an event about an alert leaves the site alone. -/
theorem heed_alert (h : Attended s₀ acts s n posts) (hnext : (toldIn acts)[n]? = some e)
    (he : e.payload = .alert a) {w : World} (hw : w.backend.Honest) (orders : Enumeration) :
    Attended s₀ acts s (n + 1)
      (posts ++ (e.requests orders a w.now (w.channels s.store)).map (Post.mk e)) := by
  have hheed := h.heed hnext hw orders ""
  rw [Listener.run_handle hw he] at hheed
  exact hheed

variable {rules : AlertRules} {streaks : Streaks} {store : Store}

/-- Listening does not disturb the alerter. -/
theorem run (h : Attended (.opened rules streaks store) acts s n posts) :
    Run (.opened rules streaks store) acts s := by
  induction h with
  | start => exact .start
  | step _ hstep ih => exact ih.step hstep
  | heed _ hnext hw orders id ih =>
    obtain ⟨a, he⟩ := (ih.news _ (List.mem_of_getElem? hnext)).exists_payload
    rw [Listener.run_handle hw he]
    exact ih

/-- Whatever a request is made for was told, under one of the two topics that are
announced, and the request is that of some channel. -/
theorem exists_of_mem_posts (h : Attended (.opened rules streaks store) acts s n posts) {p : Post}
    (hp : p ∈ posts) : p.event ∈ toldIn acts ∧
      (p.event.topic = Topic.alertTriggered ∨ p.event.topic = Topic.alertResolved) ∧
      ∃ a c now orders, p.event.payload = .alert a ∧
        Channel.request? orders c a (.ofTopic p.event.topic) now = some p.request := by
  induction h with
  | start => cases hp
  | step _ _ ih =>
    obtain ⟨htold, hrequest⟩ := ih hp
    exact ⟨by simp [htold], hrequest⟩
  | @heed acts s n posts e h hnext w hw orders id ih =>
    rcases List.mem_append.1 hp with hp | hp
    · exact ih hp
    · have htold := List.mem_of_getElem? hnext
      obtain ⟨a, he⟩ := (h.run.news e htold).exists_payload
      rw [Listener.run_handle hw he] at hp
      obtain ⟨r, hr, rfl⟩ := List.mem_map.1 hp
      obtain ⟨hannounced, c, -, hc⟩ := Event.exists_of_mem_requests hr
      exact ⟨htold, hannounced, a, c, w.now, orders, he, hc⟩

/-- An alert that is suppressed because the check depends on a router that is down,
and that a success resolves: the one request that is made is about its end. -/
theorem exists_suppressed : ∃ (store : Store) (acts : List Act) (s : Site) (e : Event) (a : Alert)
    (r : Http.Request),
    Attended (.opened (.create 1 none false) .empty store) acts s 2 [⟨e, r⟩] ∧
      e.topic = Topic.alertResolved ∧ e.payload = .alert a ∧ a.suppressed = true := by
  let check : Check := .create "check-1" "device-1" "http" "http://device-1/" .epoch
  let w : World := ⟨.epoch, .sound, fun _ => .unreachable⟩
  let cause : Alert := ⟨"alert-1", "check-2", "router-1", .warning, "down", .epoch, none, none, 3,
    false, none⟩
  let channel : Channel := ⟨"channel-1", "ops", "webhook",
    (WebhookConfig.toJson ⟨"http://ops/", none, []⟩).text, true, .epoch, .epoch⟩
  let store : Store := { Store.empty with
    alerts := [cause.toRow]
    dependencies := [⟨check.id, cause.deviceId, 0⟩]
    channels := [channel.toRow] }
  let s₀ := Site.opened (.create 1 none false) .empty store
  let calls := [(CheckResult.failed check "timeout" .epoch, "alert-2"),
    (CheckResult.passed check 1 .epoch, "alert-3")]
  let acts := s₀.actsOfCalls w check calls
  let s := s₀.afterCalls w check calls
  let a := (s₀.task check (.failed check "timeout" .epoch) "alert-2").alert .epoch
    (some (.dependency cause.deviceId))
  have hrun : Run s₀ acts s := Run.calls rfl check calls rfl (by decide) (by decide) (by decide)
  have htold : toldIn acts = [a.opening .epoch, a.ending .epoch .epoch] := by
    dsimp only [acts, calls, s₀, store, a, cause, w, check]
    cbv
  have hchannels : w.channels s.store = [channel] := by
    dsimp only [s, calls, s₀, store, channel, cause, w, check]
    cbv
  have haddress : Http.address? "http://ops/" = some "http://ops/" := by decide +kernel
  have hchannel := Notifier.ofChannel_webhook (c := channel) rfl (by decide) rfl
  obtain ⟨r, hr⟩ := Channel.exists_request? .asWritten hchannel rfl haddress
    { a with resolvedAt := some .epoch } .resolved .epoch
  have hopens : (a.opening .epoch).payload = .alert a := rfl
  have hends : (a.ending .epoch .epoch).payload = .alert { a with resolvedAt := some .epoch } := rfl
  have htopic : (a.ending .epoch .epoch).topic = Topic.alertResolved := rfl
  have hquiet : (a.opening .epoch).requests .asWritten a w.now (w.channels s.store) = [] :=
    Event.requests_of_suppressed rfl
  have hloud : (a.ending .epoch .epoch).requests .asWritten { a with resolvedAt := some .epoch }
      w.now (w.channels s.store) = [r] := by
    rw [Event.requests_of_resolved htopic, hchannels]
    exact List.filterMap_cons_some hr
  have hfirst := (of_run hrun).heed_alert (by rw [htold]; rfl) hopens (w := w)
    Backend.honest_sound .asWritten
  have hsecond := hfirst.heed_alert (by rw [htold]; rfl) hends (w := w)
    Backend.honest_sound .asWritten
  rw [hquiet, hloud] at hsecond
  exact ⟨store, acts, s, _, _, r, hsecond, htopic, hends, rfl⟩

/-- **The requests that are made about alerts.**

A request of the first kind is made about an alert that the alerter entered and
that is not suppressed; one of the second kind about an alert, suppressed or not,
that a success found open. And when the end of an alert is the next event that
is taken up, one request is made for each of the enabled channels that can be
told, whether or not the alert is suppressed. -/
theorem posts_of_alerts (h : Attended (.opened rules streaks store) acts s n posts) :
    (∀ p ∈ posts, p.event ∈ toldIn acts ∧
      ∃ a c now orders, p.event.payload = .alert a ∧
        ((p.event.topic = Topic.alertTriggered ∧ a.suppressed = false ∧ Entered acts a ∧
            Channel.request? orders c a .triggered now = some p.request) ∨
          (p.event.topic = Topic.alertResolved ∧ FoundOpen acts a.id ∧
            Channel.request? orders c a .resolved now = some p.request))) ∧
      ∀ e, (toldIn acts)[n]? = some e → ∀ a, e.payload = .alert a →
        e.topic = Topic.alertResolved → ∀ w : World, w.backend.Honest → ∀ orders,
          Attended (.opened rules streaks store) acts s (n + 1)
            (posts ++ ((w.channels s.store).filterMap (·.request? orders a .resolved w.now)).map
              (Post.mk e)) := by
  constructor
  · intro p hp
    obtain ⟨htold, hannounced, a, c, now, orders, he, hc⟩ := h.exists_of_mem_posts hp
    refine ⟨htold, a, c, now, orders, he, ?_⟩
    generalize p.event = e at *
    cases h.run.news e htold with
    | raised _ hentered =>
      cases he
      have htopic : a.openingTopic = Topic.alertTriggered :=
        hannounced.resolve_right a.openingTopic_ne
      have hc : Channel.request? orders c a (.ofTopic a.openingTopic) now = some p.request := hc
      rw [htopic, Transition.ofTopic_alertTriggered] at hc
      exact .inl ⟨htopic, Alert.suppressed_eq_false_of_openingTopic htopic, hentered, hc⟩
    | @resolved b time _ hfound =>
      cases he
      refine .inr ⟨rfl, ⟨b, hfound, rfl⟩, ?_⟩
      rw [← Transition.ofTopic_alertResolved]
      exact hc
  · intro e hnext a he htopic w hw orders
    have hheed := h.heed_alert hnext he hw orders
    rw [Event.requests_of_resolved htopic] at hheed
    exact hheed

/-- The end of an alert that is suppressed. -/
theorem posts_of_alerts_of_suppressed : ∃ (store : Store) (acts : List Act) (s : Site)
    (posts : List Post) (p : Post) (a : Alert) (c : Channel) (now : Timestamp)
    (orders : Enumeration),
    Attended (.opened (.create 1 none false) .empty store) acts s 2 posts ∧ p ∈ posts ∧
      p.event.payload = .alert a ∧ a.suppressed = true ∧ FoundOpen acts a.id ∧
      c.request? orders a .resolved now = some p.request := by
  obtain ⟨store, acts, s, e, a, r, h, htopic, hpayload, hsuppressed⟩ := exists_suppressed
  obtain ⟨-, b, c, now, orders, hb, hkind⟩ := h.posts_of_alerts.1 ⟨e, r⟩ List.mem_cons_self
  obtain rfl : b = a := Payload.alert.inj (hb.symm.trans hpayload)
  rcases hkind with ⟨-, hunsuppressed, -⟩ | ⟨-, hfound, hrequest⟩
  · rw [hsuppressed] at hunsuppressed
    cases hunsuppressed
  · exact ⟨store, acts, s, _, _, b, c, now, orders, h, List.mem_cons_self, hb, hsuppressed,
      hfound, hrequest⟩

/-- **Suppressed alerts do not stay silent**: not every request is about an alert
that is not suppressed. -/
theorem not_silent_of_suppressed : ¬ ∀ (rules : AlertRules) (streaks : Streaks) (store : Store)
    (acts : List Act) (s : Site) (n : Nat) (posts : List Post),
    Attended (.opened rules streaks store) acts s n posts →
      ∀ p ∈ posts, ∀ a, p.event.payload = .alert a → a.suppressed = false := by
  intro hsilent
  obtain ⟨store, acts, s, e, a, r, h, -, hpayload, hsuppressed⟩ := exists_suppressed
  have hunsuppressed := hsilent _ _ store acts s _ _ h ⟨e, r⟩ List.mem_cons_self a hpayload
  rw [hsuppressed] at hunsuppressed
  cases hunsuppressed

end Attended

end NetWatch
