/-
NetWatch.Event — what the parts of the monitor tell each other (`Event`,
`EventPayload`).

Events carry a topic, and either an alert, a batch of measurements or a device
that was announced.
-/
import NetWatch.Alert
import NetWatch.Device

namespace NetWatch

open Json

/-- One measurement of a probe. -/
structure MetricPoint where
  deviceId : String
  metricName : String
  value : Float
  timestamp : Timestamp
  deriving Repr

namespace MetricPoint

def shape : Shape :=
  ⟨"MetricPoint", [.of "device_id" readText .required, .of "metric_name" readText .required,
    .of "value" readFloat .required, .of "timestamp" readTimestamp .required]⟩

def read : Reader MetricPoint := fun t => do
  let m ← shape.read .malformed t
  return ⟨← m.get readText "device_id", ← m.get readText "metric_name",
    ← m.get readFloat "value", ← m.get readTimestamp "timestamp"⟩

def toJson (p : MetricPoint) : Value :=
  .object [("device_id", .string p.deviceId), ("metric_name", .string p.metricName),
    ("value", .float p.value), ("timestamp", Json.timestamp p.timestamp)]

/-- The three measurements that a result gives, named after the type of the check
(`metric_points`). -/
def ofResult (check : Check) (result : CheckResult) : List MetricPoint :=
  [⟨check.deviceId, check.checkType ++ ".latency_ms", result.latencyMs, result.checkedAt⟩,
    ⟨check.deviceId, check.checkType ++ ".packet_loss", result.packetLoss, result.checkedAt⟩,
    ⟨check.deviceId, check.checkType ++ ".success", if result.success then 1 else 0,
      result.checkedAt⟩]

end MetricPoint

namespace Topic

/-- A new alert that is announced. -/
def alertTriggered : String := "pulse.alert.triggered"

/-- An alert that is over. -/
def alertResolved : String := "pulse.alert.resolved"

/-- A new alert that is kept quiet. -/
def alertSuppressed : String := "pulse.alert.suppressed"

/-- New measurements. -/
def metricsCollected : String := "pulse.metrics.collected"

/-- A device was found. -/
def deviceDiscovered : String := "recon.device.discovered"

end Topic

/-- What an event carries (`EventPayload`). -/
inductive Payload where
  | alert (a : Alert)
  | metrics (points : List MetricPoint)
  | deviceDiscovered (d : DiscoveredDevice)
  deriving Repr

/-- Something that happened, told to whoever listens. -/
structure Event where
  topic : String
  source : String
  timestamp : Timestamp
  payload : Payload
  deriving Repr

namespace Event

/-- The name under which the monitor speaks (`SOURCE`). -/
def ownSource : String := "pulse"

/-- An event of the monitor itself (`Event::new`). -/
def create (topic : String) (payload : Payload) (now : Timestamp) : Event :=
  ⟨topic, ownSource, now, payload⟩

end Event

/-- Which change of an alert is announced (`EventKind`). -/
inductive Transition where
  | triggered
  | resolved
  deriving DecidableEq, Repr

namespace Transition

/-- How a transition is called (`EventKind::as_str`). -/
def name : Transition → String
  | .triggered => "triggered"
  | .resolved => "resolved"

def tags : List (String × Transition) :=
  [("triggered", .triggered), ("resolved", .resolved)]

/-- Topics that end in `.resolved` announce the end of an alert, all others its beginning
(`EventKind::from_topic`). -/
def ofTopic (topic : String) : Transition :=
  if ".resolved".toList <:+ topic.toList then .resolved else .triggered

end Transition

end NetWatch
