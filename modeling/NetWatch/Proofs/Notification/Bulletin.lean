/-
NetWatch.Proofs.Notification.Bulletin — what an Alertmanager receiver makes of a body
(`AlertmanagerPayload`).

The body of a post is text, and all that the receiver has. `Bulletin.read` reads
it as the receiver does: a status, and the alerts with a status, labels and
times of their own. `Bulletin.readText?_alertmanager` is the point: what was
written about an alert is read back as its bulletin, whatever texts the alert
holds.

A bulletin says that an alert goes on by its status, and once more by an end at
the first instant of year 1. No moment since 1970 is written like that
(`Rfc3339.format_ne_noEnd`).
-/
import NetWatch.Proofs.Notification.Announcing
import NetWatch.Proofs.Json.Numbers

namespace NetWatch

open Json

/-! ## Bodies -/

/-- What is said of one alert. -/
structure Bulletin.Entry where
  status : String
  labels : List (String × String)
  annotations : List (String × String)
  startsAt : String
  endsAt : String
  deriving DecidableEq

/-- What a receiver is told at once. -/
structure Bulletin where
  status : String
  entries : List Bulletin.Entry
  deriving DecidableEq

namespace Bulletin

def Entry.shape : Shape :=
  ⟨"Alert", [.of "status" readText .required, .of "labels" (readMap readText) .required,
    .of "annotations" (readMap readText) .required, .of "startsAt" readText .required,
    .of "endsAt" readText .required, .of "generatorURL" readText .required]⟩

def Entry.read : Reader Entry := fun t => do
  let m ← shape.read .malformed t
  return ⟨← m.get readText "status", ← m.get (readMap readText) "labels",
    ← m.get (readMap readText) "annotations", ← m.get readText "startsAt",
    ← m.get readText "endsAt"⟩

def shape : Shape :=
  ⟨"Message", [.of "version" readText .required, .of "status" readText .required,
    .of "alerts" (readList Entry.read) .required]⟩

def read : Reader Bulletin := fun t => do
  let m ← shape.read .malformed t
  return ⟨← m.get readText "status", ← m.get (readList Entry.read) "alerts"⟩

/-- What is said of an alert at a transition. -/
def entryOf (alert : Alert) (transition : Transition) : Entry :=
  ⟨Payload.status transition, Payload.labels alert, [("summary", alert.message)],
    Rfc3339.format alert.triggeredAt, Payload.endsAt alert⟩

/-- **A body is read as it was written.** -/
theorem readText?_alertmanager (alert : Alert) (transition : Transition) :
    readText? read (Payload.alertmanager alert transition).text =
      .ok ⟨Payload.status transition, [entryOf alert transition]⟩ := by
  unfold readText?
  rw [Document.ofText_text rfl]
  rfl

end Bulletin

/-- The body of a request is that of its notifier, whatever headers go with it. -/
theorem Notifier.body_of_request {order : HeaderOrder} {n : Notifier} {alert : Alert}
    {transition : Transition} {now : Timestamp} {r : Http.Request}
    (h : n.request order alert transition now = .ok r) :
    r.body = n.body alert transition now := by
  simp only [request, Bind.bind, Except.bind] at h
  split at h
  · cases h
  split at h
  · cases h
    rfl
  · cases h

/-- What a channel of an Alertmanager receiver is sent about an alert is its bulletin. -/
theorem Channel.readText?_of_request? {orders : Enumeration} {c : Channel} {alert : Alert}
    {transition : Transition} {now : Timestamp} {r : Http.Request}
    (hc : c.channelType = "alertmanager") (h : c.request? orders alert transition now = some r) :
    readText? Bulletin.read r.body =
      .ok ⟨Payload.status transition, [Bulletin.entryOf alert transition]⟩ := by
  unfold request? Notifier.ofChannel at h
  rw [hc, if_neg (by decide), if_pos rfl] at h
  cases hconfig : Notifier.configOf c AlertmanagerConfig.read AlertmanagerConfig.url with
  | error e =>
    rw [hconfig] at h
    cases h
  | ok config =>
    rw [hconfig] at h
    have hrequest : ((Notifier.alertmanager config).request (orders c) alert transition
        now).toOption = some r := h
    cases hsent : (Notifier.alertmanager config).request (orders c) alert transition now with
    | error e =>
      rw [hsent] at hrequest
      cases hrequest
    | ok r' =>
      rw [hsent] at hrequest
      cases hrequest
      rw [Notifier.body_of_request hsent]
      exact Bulletin.readText?_alertmanager alert transition

/-! ## The end that is none -/

namespace Text

/-- A number of a thousand or more needs no zeros to fill four digits. -/
theorem padded_four {n : Nat} (h : 1000 ≤ n) : padded 4 n = decimal n := by
  have hlength : 4 ≤ (decimal n).length := by
    rw [decimal, if_neg (by omega), decimal, if_neg (by omega), decimal, if_neg (by omega)]
    have := List.length_pos_iff.2 (decimal_ne_nil (n / 10 / 10 / 10))
    simp only [List.length_append, List.length_singleton]
    omega
  unfold padded
  rw [Nat.sub_eq_zero_of_le hlength]
  rfl

end Text

/-- No day since 1970 lies in a year before 1000. -/
theorem Date.le_yearOf {n : Int} (h : 0 ≤ n) : 1000 ≤ yearOf n := by
  have hspans := (yearOf_spans n).2
  have hmean := (yearStart_near_mean (yearOf n + 1)).2
  omega

theorem Timestamp.dayNumber_nonneg {t : Timestamp} (h : epoch ≤ t) : 0 ≤ t.dayNumber := by
  have hseconds : (0 : Int) < t.seconds ∨ ((0 : Int) = t.seconds ∧ 0 ≤ t.nanos) := h
  unfold dayNumber
  omega

/-- **No moment since 1970 is written like the end that is none.** -/
theorem Rfc3339.format_ne_noEnd {t : Timestamp} (h : Timestamp.epoch ≤ t) :
    format t ≠ Payload.noEnd := by
  have hyear : 1000 ≤ t.date.year := Date.le_yearOf (Timestamp.dayNumber_nonneg h)
  have hhead : (yearText t.date.year).head? ≠ some '0' := by
    unfold yearText
    split
    · rw [Text.padded_four (by omega)]
      exact head?_decimal (by omega)
    · rw [if_neg (by omega)]
      simp
  intro hnone
  have hchars : chars t = Payload.noEnd.toList := by
    rw [← hnone, format, String.toList_ofList]
  have hzero : (chars t).head? = some '0' := by
    rw [hchars]
    decide
  unfold chars dateText at hzero
  rw [List.append_assoc, List.append_assoc, List.append_assoc, List.head?_append] at hzero
  cases hfirst : (yearText t.date.year).head? with
  | none => simp [hfirst] at hzero
  | some c =>
    rw [hfirst] at hzero hhead
    exact hhead hzero

end NetWatch
