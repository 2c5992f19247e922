/-
NetWatch.Proofs.Notification.Announcing — what the listener sends for an event
(`handle_alert_event`).

For an event that carries an alert the listener looks up the enabled channels,
and makes one request for each channel that has a notifier and can be reached by
one (`Listener.run_handle`). It does so for the topics of a new alert and of
one that is over, whatever the alert itself says; for no other topic does it
send anything.
-/
import NetWatch.Listener
import NetWatch.Proofs.Json.RoundTrip
import NetWatch.Proofs.Script.Asking
import NetWatch.Proofs.Script.Sending

namespace NetWatch

open Script

/-! ## Requests -/

/-- The request by which a channel is told of an alert, if there is one. -/
def Channel.request? (orders : Enumeration) (c : Channel) (alert : Alert)
    (transition : Transition) (now : Timestamp) : Option Http.Request :=
  match Notifier.ofChannel c with
  | .ok (some n) => (n.request (orders c) alert transition now).toOption
  | .ok none => none
  | .error _ => none

/-- A webhook that is configured with a URL, and with nothing else, has a notifier. -/
theorem Notifier.ofChannel_webhook {c : Channel} {url : String}
    (htype : c.channelType = "webhook") (hurl : Text.isBlankText url = false)
    (hconfig : c.config = (WebhookConfig.toJson ⟨url, none, []⟩).text) :
    ofChannel c = .ok (some (.webhook ⟨url, none, []⟩)) := by
  have hread : Json.readText? WebhookConfig.read c.config = .ok ⟨url, none, []⟩ := by
    unfold Json.readText?
    rw [hconfig, Json.Document.ofText_text rfl]
    rfl
  simp [ofChannel, configOf, htype, hread, hurl, Except.map]

/-- An Alertmanager receiver that is configured with a URL, and with nothing else, has one too. -/
theorem Notifier.ofChannel_alertmanager {c : Channel} {url : String}
    (htype : c.channelType = "alertmanager") (hurl : Text.isBlankText url = false)
    (hconfig : c.config = (AlertmanagerConfig.toJson ⟨url, none⟩).text) :
    ofChannel c = .ok (some (.alertmanager ⟨url, none⟩)) := by
  have hread : Json.readText? AlertmanagerConfig.read c.config = .ok ⟨url, none⟩ := by
    unfold Json.readText?
    rw [hconfig, Json.Document.ofText_text rfl]
    rfl
  simp [ofChannel, configOf, htype, hread, hurl, Except.map]

/-- A channel without headers of its own is told of every alert if its URL is an address. -/
theorem Channel.exists_request? (orders : Enumeration) {c : Channel} {n : Notifier}
    {address : String} (hn : Notifier.ofChannel c = .ok (some n)) (hheaders : n.customHeaders = [])
    (haddress : Http.address? n.url = some address) (alert : Alert) (transition : Transition)
    (now : Timestamp) : ∃ r, c.request? orders alert transition now = some r := by
  have hnone : (orders c).arrange n.customHeaders = [] := by
    rw [hheaders]
    exact ((orders c).perm []).eq_nil
  unfold request?
  rw [hn]
  simp [Notifier.request, Notifier.withHeaders, hnone, haddress, Bind.bind, Except.bind,
    Pure.pure, Except.pure, Except.toOption]

theorem Transition.ofTopic_alertTriggered : ofTopic Topic.alertTriggered = .triggered := by
  decide

theorem Transition.ofTopic_alertResolved : ofTopic Topic.alertResolved = .resolved := by
  decide

namespace Event

/-- The requests that an event about an alert gives rise to. -/
def requests (orders : Enumeration) (e : Event) (alert : Alert) (now : Timestamp)
    (channels : List Channel) : List Http.Request :=
  if e.topic = Topic.alertTriggered ∨ e.topic = Topic.alertResolved then
    channels.filterMap (·.request? orders alert (.ofTopic e.topic) now)
  else []

variable {orders : Enumeration} {e : Event} {alert : Alert} {now : Timestamp}
  {channels : List Channel}

theorem exists_of_mem_requests {r : Http.Request} (h : r ∈ e.requests orders alert now channels) :
    (e.topic = Topic.alertTriggered ∨ e.topic = Topic.alertResolved) ∧
      ∃ c ∈ channels, c.request? orders alert (.ofTopic e.topic) now = some r := by
  unfold requests at h
  split at h
  · rename_i hannounced
    exact ⟨hannounced, List.mem_filterMap.1 h⟩
  · cases h

theorem requests_of_resolved (h : e.topic = Topic.alertResolved) :
    e.requests orders alert now channels =
      channels.filterMap (·.request? orders alert .resolved now) := by
  unfold requests
  rw [if_pos (.inr h), h, Transition.ofTopic_alertResolved]

theorem requests_of_suppressed (h : e.topic = Topic.alertSuppressed) :
    e.requests orders alert now channels = [] := by
  unfold requests
  rw [h]
  exact if_neg (by decide)

end Event

/-- The channels that are told of alerts: those that are enabled, or none if the
store does not say. -/
def World.channels (w : World) (st : Store) : List Channel :=
  match (w.backend .enabledChannels st).1 with
  | .ok channels => channels
  | .error _ => []

/-! ## Sending them -/

variable {orders : Enumeration} {now : Timestamp} {b : Backend} {w : World} {st : Store}
  {alert : Alert} {transition : Transition}

/-- A notifier makes its request, if it has one, whatever is answered. -/
theorem Notifier.sends_deliver (order : HeaderOrder) (n : Notifier) :
    Sends now b st (n.deliver order alert transition)
      (n.request order alert transition now).toOption.toList := by
  unfold deliver
  rw [now_bind]
  refine .clock ?_
  cases n.request order alert transition now with
  | error e => exact .done _
  | ok r => exact .send fun _ => .done _

theorem Announcement.sends_toChannel (c : Channel) :
    Sends now b st (toChannel orders alert transition c)
      (c.request? orders alert transition now).toList := by
  unfold toChannel Channel.request?
  cases Notifier.ofChannel c with
  | error e => exact .done ()
  | ok found =>
    cases found with
    | none => exact .done ()
    | some n =>
      have hsends :
          Sends now b st (n.deliver (orders c) alert transition >>= fun _ => .done ()) _ :=
        (n.sends_deliver (orders c)).bind fun _ => .done ()
      rwa [List.append_nil] at hsends

theorem Announcement.sends_toChannels (channels : List Channel) :
    Sends now b st (toChannels orders alert transition channels)
      (channels.filterMap (·.request? orders alert transition now)) := by
  induction channels with
  | nil => exact .done ()
  | cons c rest ih =>
    have hsends : Sends now b st (toChannels orders alert transition (c :: rest)) _ :=
      (sends_toChannel c).bind fun _ => ih
    rw [List.filterMap_cons]
    cases hrequest : c.request? orders alert transition now <;> rwa [hrequest] at hsends

/-- **An event about an alert** makes the request of each channel that the store lists. -/
theorem Announcement.sends_ofEvent {e : Event} (he : e.payload = .alert alert)
    {channels : List Channel} (hlisted : b .enabledChannels st = (.ok channels, st)) :
    Sends now b st (ofEvent orders e)
      (channels.filterMap (·.request? orders alert (.ofTopic e.topic) now)) := by
  unfold ofEvent
  simp only [he]
  refine .ask (congrArg Prod.snd hlisted) ?_
  rw [hlisted]
  exact sends_toChannels channels

theorem Announcement.run_ofEvent (hw : w.backend.Honest) {e : Event}
    (he : e.payload = .alert alert) :
    (ofEvent orders e).run w st =
      ⟨some (), st, [],
        (w.channels st).filterMap (·.request? orders alert (.ofTopic e.topic) w.now)⟩ := by
  have hstore : (w.backend .enabledChannels st).2 = st := by
    rcases hw .enabledChannels st with h | ⟨error, h⟩
    · rw [h, Store.answer_snd_of_isLookup st rfl]
    · rw [h]
  unfold World.channels
  cases hreply : (w.backend .enabledChannels st).1 with
  | error e' =>
    unfold ofEvent
    simp only [he]
    rw [query_bind]
    simp only [Script.run, hreply, hstore]
    rfl
  | ok channels =>
    obtain ⟨_, hrun⟩ := (sends_ofEvent he (Prod.ext hreply hstore)).run
    exact hrun

/-- **What the listener does about an event that carries an alert.** -/
theorem Listener.run_handle (hw : w.backend.Honest) {e : Event} (he : e.payload = .alert alert)
    (id : String) :
    (handle orders e id).run w st =
      ⟨some false, st, [], e.requests orders alert w.now (w.channels st)⟩ := by
  unfold handle Event.requests
  by_cases hannounced : e.topic = Topic.alertTriggered ∨ e.topic = Topic.alertResolved
  · have hrun : (Announcement.ofEvent orders e).run w st = ⟨some (), st, [], _⟩ :=
      Announcement.run_ofEvent hw he
    rw [if_pos hannounced, if_pos hannounced,
      Script.run_bind_of_result (congrArg Trace.result hrun), hrun]
    simp [Trace.andThen, Script.run, pure]
  · rw [if_neg hannounced, if_neg hannounced, he]
    split <;> rfl

end NetWatch
