/-
NetWatch.Store.Row — records as the store keeps them (`check_from_row`,
`alert_from_row`, `window_from_row`, `channel_from_row`).

A row holds times as whole milliseconds and lists as JSON text. Text is kept
and compared whole, but shown only up to the first U+0000 in it. A zero kept as
a measurement has no sign.
-/
import NetWatch.Alert
import NetWatch.Channel
import NetWatch.Device
import NetWatch.Window

namespace NetWatch

/-- Text as it is shown when a row is read: up to the first U+0000. -/
def shownText (s : String) : String :=
  String.ofList (s.toList.takeWhile (· ≠ Char.ofNat 0))

/-- A measurement as it is kept. -/
def keptFloat (x : Float) : Float :=
  if x == 0 then 0 else x

/-! ## Checks and results -/

structure CheckRow where
  id : String
  deviceId : String
  checkType : String
  target : String
  intervalSeconds : UInt64
  enabled : Bool
  createdAt : Int
  updatedAt : Int
  deriving DecidableEq, Repr

def Check.toRow (c : Check) : CheckRow :=
  ⟨c.id, c.deviceId, c.checkType, c.target, c.intervalSeconds, c.enabled, c.createdAt.toMillis,
    c.updatedAt.toMillis⟩

/-- The check that a row shows (`check_from_row`). -/
def CheckRow.toCheck (r : CheckRow) : Check :=
  ⟨shownText r.id, shownText r.deviceId, shownText r.checkType, shownText r.target,
    r.intervalSeconds, r.enabled, .ofMillis r.createdAt, .ofMillis r.updatedAt⟩

structure ResultRow where
  id : Nat
  checkId : String
  deviceId : String
  success : Bool
  latencyMs : Float
  packetLoss : Float
  errorMessage : Option String
  checkedAt : Int
  deriving Repr

def CheckResult.toRow (r : CheckResult) (id : Nat) : ResultRow :=
  ⟨id, r.checkId, r.deviceId, r.success, keptFloat r.latencyMs, keptFloat r.packetLoss,
    r.errorMessage, r.checkedAt.toMillis⟩

def ResultRow.toResult (r : ResultRow) : CheckResult :=
  ⟨some r.id, shownText r.checkId, shownText r.deviceId, r.success, r.latencyMs, r.packetLoss,
    r.errorMessage.map shownText, .ofMillis r.checkedAt⟩

/-! ## Alerts -/

/-- An alert as kept; its severity is the text of the tag. -/
structure AlertRow where
  id : String
  checkId : String
  deviceId : String
  severity : String
  message : String
  triggeredAt : Int
  resolvedAt : Option Int
  acknowledgedAt : Option Int
  consecutiveFailures : UInt32
  suppressed : Bool
  suppressedBy : Option String
  deriving DecidableEq, Repr

namespace AlertRow

/-- Whether the alert is not resolved. -/
def isActive (r : AlertRow) : Bool :=
  r.resolvedAt.isNone

/-- The alert that a row shows, or the tag that names no severity (`alert_from_row`). -/
def toAlert (r : AlertRow) : Except String Alert :=
  match Severity.named? (shownText r.severity) with
  | none => .error (shownText r.severity)
  | some severity => .ok
    ⟨shownText r.id, shownText r.checkId, shownText r.deviceId, severity, shownText r.message,
      .ofMillis r.triggeredAt, r.resolvedAt.map .ofMillis, r.acknowledgedAt.map .ofMillis,
      r.consecutiveFailures, r.suppressed, r.suppressedBy.map shownText⟩

end AlertRow

def Alert.toRow (a : Alert) : AlertRow :=
  ⟨a.id, a.checkId, a.deviceId, a.severity.name, a.message, a.triggeredAt.toMillis,
    a.resolvedAt.map Timestamp.toMillis, a.acknowledgedAt.map Timestamp.toMillis,
    a.consecutiveFailures, a.suppressed, a.suppressedBy⟩

/-! ## Devices and dependencies -/

structure DeviceRow where
  id : String
  hostname : String
  parentId : Option String
  lastSeen : Option Int
  deriving DecidableEq, Repr

def Device.toRow (d : Device) : DeviceRow :=
  ⟨d.id, d.hostname, d.parentId, d.lastSeen.map Timestamp.toMillis⟩

/-- The device that a row shows; a parent without a name is none. -/
def DeviceRow.toDevice (r : DeviceRow) : Device :=
  ⟨shownText r.id, shownText r.hostname, (r.parentId.map shownText).filter (· ≠ ""),
    r.lastSeen.map .ofMillis⟩

structure DependencyRow where
  checkId : String
  deviceId : String
  createdAt : Int
  deriving DecidableEq, Repr

def DependencyRow.toDependency (r : DependencyRow) : Dependency :=
  ⟨shownText r.checkId, shownText r.deviceId, .ofMillis r.createdAt⟩

/-! ## Windows and channels -/

/-- A window as kept; its devices are the text of a JSON array. -/
structure WindowRow where
  id : String
  name : String
  description : String
  startTime : Int
  endTime : Int
  recurrence : String
  deviceIds : String
  enabled : Bool
  createdAt : Int
  updatedAt : Int
  deriving DecidableEq, Repr

def Window.toRow (w : Window) : WindowRow :=
  ⟨w.id, w.name, w.description, w.startTime.toMillis, w.endTime.toMillis, w.recurrence,
    (Window.deviceIdsJson w.deviceIds).text, w.enabled, w.createdAt.toMillis, w.updatedAt.toMillis⟩

/-- The window that a row shows, if its devices can be read (`window_from_row`). -/
def WindowRow.toWindow (r : WindowRow) : Except Json.ReadError Window :=
  match Json.readText? (Json.readList Json.readText) (shownText r.deviceIds) with
  | .error e => .error e
  | .ok deviceIds => .ok
    ⟨shownText r.id, shownText r.name, shownText r.description, .ofMillis r.startTime,
      .ofMillis r.endTime, shownText r.recurrence, deviceIds, r.enabled, .ofMillis r.createdAt,
      .ofMillis r.updatedAt⟩

structure ChannelRow where
  id : String
  name : String
  channelType : String
  config : String
  enabled : Bool
  createdAt : Int
  updatedAt : Int
  deriving DecidableEq, Repr

def Channel.toRow (c : Channel) : ChannelRow :=
  ⟨c.id, c.name, c.channelType, c.config, c.enabled, c.createdAt.toMillis, c.updatedAt.toMillis⟩

/-- The channel that a row shows (`channel_from_row`). -/
def ChannelRow.toChannel (r : ChannelRow) : Channel :=
  ⟨shownText r.id, shownText r.name, shownText r.channelType, shownText r.config, r.enabled,
    .ofMillis r.createdAt, .ofMillis r.updatedAt⟩

end NetWatch
