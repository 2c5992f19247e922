/-
NetWatch.Notification.Payload — the bodies that notifiers post (`WebhookPayload`,
`AlertmanagerPayload`).

A webhook gets the transition, the whole alert and the time of posting. An
Alertmanager receiver gets the alert as labels and annotations; an alert that
goes on ends at the first instant of year 1.
-/
import NetWatch.Event

namespace NetWatch.Payload

open Json

/-- What a webhook is told (`WebhookNotifier::notify`). -/
def webhook (alert : Alert) (transition : Transition) (now : Timestamp) : Value :=
  .object [("event_type", .string transition.name), ("alert", alert.toJson),
    ("timestamp", timestamp now)]

/-- The name under which all alerts are grouped (`ALERT_NAME`). -/
def alertName : String := "PulseAlert"

/-- The end of an alert that goes on (`ZERO_TIME`). -/
def noEnd : String := "0001-01-01T00:00:00Z"

/-- How an Alertmanager receiver calls a transition. -/
def status : Transition → String
  | .triggered => "firing"
  | .resolved => "resolved"

/-- The labels that identify the series of an alert, in the order of their names. -/
def labels (alert : Alert) : List (String × String) :=
  [("alertname", alertName), ("check_id", alert.checkId), ("device_id", alert.deviceId),
    ("severity", alert.severity.name), ("source", Event.ownSource)]

def endsAt (alert : Alert) : String :=
  match alert.resolvedAt with
  | some t => Rfc3339.format t
  | none => noEnd

/-- What an Alertmanager receiver is told (`payload`). -/
def alertmanager (alert : Alert) (transition : Transition) : Value :=
  .object [("version", .string "4"), ("status", .string (status transition)),
    ("alerts", .array [.object [("status", .string (status transition)),
      ("labels", .object ((labels alert).map fun l => (l.1, .string l.2))),
      ("annotations", .object [("summary", .string alert.message)]),
      ("startsAt", timestamp alert.triggeredAt), ("endsAt", .string (endsAt alert)),
      ("generatorURL", .string "")]])]

end NetWatch.Payload
