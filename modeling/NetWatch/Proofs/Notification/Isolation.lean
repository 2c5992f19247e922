/-
NetWatch.Proofs.Notification.Isolation — what one channel does to the others.

Nothing, is the point of `Announcement.isolation`. What `handle_alert_event`
sends is put together from what each enabled channel would be sent if there were
no other, in the order of `list_enabled_channels`; and a channel that is added,
taken out or replaced leaves the requests of the others as they were, around its
own. That holds whatever the channels say and whatever the network answers,
because the requests of an event do not depend on the replies
(`Announcement.runOn_ofEvent`).

They do depend on the orders in which the maps of headers are gone through, so all
of this is said at given orders. How much depends on them is said for each channel
(`ChannelRow.request?_alike`): whether there is a request never does, nor its
address, its body and the names of its headers; the values do not either, unless
two names of the configuration differ in case only.
-/
import NetWatch.Proofs.Notification.Announcing
import NetWatch.Proofs.Notification.HeaderOrder
import Mathlib.Data.List.Basic
import Mathlib.Data.List.Forall2

namespace NetWatch

open Script

/-! ## Events without an alert -/

/-- The request that a kept channel is sent for an event, if there is one. -/
def ChannelRow.request? (orders : Enumeration) (r : ChannelRow) (e : Event) (now : Timestamp) :
    Option Http.Request :=
  match e.payload with
  | .alert alert => r.toChannel.request? orders alert (.ofTopic e.topic) now
  | .metrics _ => none
  | .deviceDiscovered _ => none

theorem ChannelRow.request?_of_no_alert {e : Event} (h : ∀ alert, e.payload ≠ .alert alert)
    (orders : Enumeration) (r : ChannelRow) (now : Timestamp) :
    r.request? orders e now = none := by
  unfold request?
  cases hpayload : e.payload with
  | alert alert => exact absurd hpayload (h alert)
  | metrics _ => rfl
  | deviceDiscovered _ => rfl

theorem Announcement.ofEvent_of_no_alert {e : Event} (h : ∀ alert, e.payload ≠ .alert alert)
    (orders : Enumeration) : ofEvent orders e = pure () := by
  unfold ofEvent
  cases hpayload : e.payload with
  | alert alert => exact absurd hpayload (h alert)
  | metrics _ => rfl
  | deviceDiscovered _ => rfl

/-! ## Which channels are told -/

namespace Store

/-- The rows of the channels that are told, in the order of the listing. -/
def toldChannels (s : Store) : List ChannelRow :=
  oldestFirst ChannelRow.createdAt (s.channels.filter (·.enabled))

/-- The store with other channels. -/
def withChannels (s : Store) (rows : List ChannelRow) : Store :=
  { s with channels := rows }

theorem answer_enabledChannels (s : Store) :
    s.answer .enabledChannels = (.ok (s.toldChannels.map ChannelRow.toChannel), s) :=
  rfl

theorem toldChannels_singleton (s : Store) (r : ChannelRow) :
    (s.withChannels [r]).toldChannels = if r.enabled then [r] else [] := by
  unfold toldChannels withChannels
  by_cases h : r.enabled <;> simp [h, oldestFirst]

/-- A channel takes its place among those that are told, if it is one of them, and the others keep
theirs. -/
theorem exists_toldChannels_insert (s : Store) (before after : List ChannelRow)
    (createdAt : Int) : ∃ earlier later,
      (s.withChannels (before ++ after)).toldChannels = earlier ++ later ∧
      ∀ r : ChannelRow, r.createdAt = createdAt →
        (s.withChannels (before ++ r :: after)).toldChannels =
          earlier ++ (s.withChannels [r]).toldChannels ++ later := by
  obtain ⟨earlier, later, hwithout, hwith⟩ := exists_oldestFirst_insert ChannelRow.createdAt
    (before.filter (·.enabled)) (after.filter (·.enabled)) createdAt
  refine ⟨earlier, later, ?_, fun r hr => ?_⟩
  · simpa [toldChannels, withChannels] using hwithout
  · rw [toldChannels_singleton]
    by_cases henabled : r.enabled
    · simpa [toldChannels, withChannels, henabled] using hwith r hr
    · simpa [toldChannels, withChannels, henabled] using hwithout

end Store

/-- The names of the headers that a channel is configured with differ in more than case. -/
def ChannelRow.HeadersApart (r : ChannelRow) : Prop :=
  ∀ n, Notifier.ofChannel r.toChannel = .ok (some n) → n.HeadersApart

/-- **What a channel is sent in two orders** is alike. -/
theorem ChannelRow.request?_alike {r : ChannelRow} {certain : Prop}
    (hcertain : certain → r.HeadersApart) (e : Event) (now : Timestamp)
    (orders orders' : Enumeration) :
    Option.Rel (Http.Request.Alike certain) (r.request? orders e now)
      (r.request? orders' e now) := by
  unfold request?
  cases e.payload with
  | metrics _ => exact .none
  | deviceDiscovered _ => exact .none
  | alert alert =>
    unfold Channel.request?
    cases hfound : Notifier.ofChannel r.toChannel with
    | error _ => exact .none
    | ok found =>
      cases found with
      | none => exact .none
      | some n => exact Notifier.request_alike (fun h => hcertain h n hfound) _ _

/-! ## What is sent -/

variable {orders : Enumeration} {e : Event} {now : Timestamp} {s : Store}

/-- **The requests of an event** are those of the channels that are told, whatever is answered. -/
theorem Announcement.sends_ofEvent_sound (orders : Enumeration) (e : Event) (now : Timestamp)
    (s : Store) :
    Sends now .sound s (ofEvent orders e) (s.toldChannels.filterMap (·.request? orders e now)) := by
  by_cases h : ∃ alert, e.payload = .alert alert
  · obtain ⟨alert, hpayload⟩ := h
    have hlisted : Backend.sound .enabledChannels s = _ := s.answer_enabledChannels
    have hsends : Sends now .sound s (ofEvent orders e) _ := sends_ofEvent hpayload hlisted
    rw [List.filterMap_map] at hsends
    have hrequest : (fun r : ChannelRow => r.request? orders e now) =
        (fun c : Channel => c.request? orders alert (.ofTopic e.topic) now) ∘
          ChannelRow.toChannel := by
      funext r
      unfold ChannelRow.request?
      rw [hpayload]
      rfl
    rw [hrequest]
    exact hsends
  · have hnone : ∀ alert, e.payload ≠ .alert alert := fun alert ha => h ⟨alert, ha⟩
    have hrequests : s.toldChannels.filterMap (·.request? orders e now) = [] :=
      List.filterMap_eq_nil_iff.2 fun r _ => r.request?_of_no_alert hnone orders now
    rw [ofEvent_of_no_alert hnone, hrequests]
    exact .done ()

/-- What is sent for an event, over a network and a store. -/
def Event.sent (orders : Enumeration) (e : Event) (now : Timestamp) (n : Network) (s : Store) :
    List Http.Request :=
  ((Announcement.ofEvent orders e).runOn now .sound n s).requests

theorem Announcement.runOn_ofEvent (orders : Enumeration) (e : Event) (now : Timestamp)
    (n : Network) (s : Store) :
    (ofEvent orders e).runOn now .sound n s =
      ⟨some (), s, [], s.toldChannels.filterMap (·.request? orders e now)⟩ := by
  obtain ⟨_, hrun⟩ := (sends_ofEvent_sound orders e now s).runOn n
  exact hrun

namespace Event

theorem sent_eq (orders : Enumeration) (e : Event) (now : Timestamp) (n : Network) (s : Store) :
    e.sent orders now n s = s.toldChannels.filterMap (·.request? orders e now) := by
  unfold sent
  rw [Announcement.runOn_ofEvent]

/-- A channel that is told is sent its request, also if it is the only one. -/
theorem sent_alone (r : ChannelRow) (n : Network) :
    e.sent orders now n (s.withChannels [r]) =
      if r.enabled then (r.request? orders e now).toList else [] := by
  rw [sent_eq, Store.toldChannels_singleton]
  split
  · cases hrequest : r.request? orders e now <;> simp [hrequest]
  · rfl

/-- All requests are those of the single channels, one after the other. -/
theorem sent_eq_flatMap (n : Network) (alone : ChannelRow → Network) :
    e.sent orders now n s =
      s.toldChannels.flatMap fun r => e.sent orders now (alone r) (s.withChannels [r]) := by
  rw [sent_eq, List.filterMap_eq_flatMap_toList]
  refine List.flatMap_congr fun r hr => ?_
  have henabled : r.enabled = true := (List.mem_filter.1 (Store.mem_oldestFirst.1 hr)).2
  rw [sent_alone, if_pos henabled]

/-- **In other orders** an event has the requests that it has, alike one by one. -/
theorem sent_alike (orders orders' : Enumeration) (e : Event) (now : Timestamp)
    (n n' : Network) (s : Store) :
    List.Forall₂ (Http.Request.Alike (∀ r ∈ s.toldChannels, r.HeadersApart))
      (e.sent orders now n s) (e.sent orders' now n' s) := by
  rw [sent_eq, sent_eq]
  have hsame : List.Forall₂ (fun r r' => r' = r ∧ r ∈ s.toldChannels) s.toldChannels
      s.toldChannels := List.forall₂_same.2 fun r hr => ⟨rfl, hr⟩
  refine List.rel_filterMap (fun r r' hr => ?_) hsame
  obtain ⟨rfl, hmem⟩ := hr
  exact ChannelRow.request?_alike (fun h => h r' hmem) e now orders orders'

end Event

end NetWatch
