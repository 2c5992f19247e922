/-
NetWatch.Check — what is watched, and what came of watching it (`Check`,
`CheckResult`, `ProbeOutcome`).

A check names a target and the protocol it is probed with, and belongs to a
device. Each probe of it leaves a result. The protocol is kept as the text it
was given as: a check whose protocol is not known can be held and is executed
as unsupported.
-/
import NetWatch.Json.Reader

namespace NetWatch

/-- A registered target of monitoring. -/
structure Check where
  id : String
  deviceId : String
  /-- The tag of the probe protocol. -/
  checkType : String
  target : String
  intervalSeconds : UInt64
  enabled : Bool
  createdAt : Timestamp
  updatedAt : Timestamp
  deriving DecidableEq, Repr

/-- A new check, enabled and due every thirty seconds (`Check::new`). -/
def Check.create (id deviceId checkType target : String) (now : Timestamp) : Check :=
  ⟨id, deviceId, checkType, target, 30, true, now, now⟩

/-- What came of one probe of a check. -/
structure CheckResult where
  /-- The row it is kept in, once it is kept. -/
  id : Option Int
  checkId : String
  deviceId : String
  success : Bool
  latencyMs : Float
  /-- The share of probes that got no answer, from 0 to 1. -/
  packetLoss : Float
  errorMessage : Option String
  checkedAt : Timestamp
  deriving Repr

namespace CheckResult

/-- The target answered after so many milliseconds (`CheckResult::success`). -/
def passed (check : Check) (latencyMs : Float) (now : Timestamp) : CheckResult :=
  ⟨none, check.id, check.deviceId, true, latencyMs, 0, none, now⟩

/-- The target did not answer (`CheckResult::failure`). -/
def failed (check : Check) (error : String) (now : Timestamp) : CheckResult :=
  ⟨none, check.id, check.deviceId, false, 0, 1, some error, now⟩

end CheckResult

/-- What a probe saw; a target out of reach is an outcome as well. -/
structure ProbeOutcome where
  success : Bool
  latencyMs : Float
  packetLoss : Float
  error : Option String
  deriving Repr

namespace ProbeOutcome

/-- The target answered (`ProbeOutcome::up`). -/
def up (latencyMs : Float) : ProbeOutcome :=
  ⟨true, latencyMs, 0, none⟩

/-- Nothing came back (`ProbeOutcome::down`). -/
def down (error : String) : ProbeOutcome :=
  ⟨false, 0, 1, some error⟩

/-- Nothing useful came back, and it took so long to find that out (`ProbeOutcome::down_after`). -/
def downAfter (latencyMs : Float) (error : String) : ProbeOutcome :=
  ⟨false, latencyMs, 1, some error⟩

/-- The result of a check that an outcome makes (`into_result`). A success has no error text, a
failure always has one; the measurements are those of the outcome. -/
def toResult (o : ProbeOutcome) (check : Check) (now : Timestamp) : CheckResult :=
  let base :=
    if o.success then CheckResult.passed check o.latencyMs now
    else CheckResult.failed check (o.error.getD "check failed") now
  { base with latencyMs := o.latencyMs, packetLoss := o.packetLoss }

end ProbeOutcome

/-! ## Written forms -/

namespace Json

/-- A member that is there only if it has a value. -/
def optionalMember (name : String) (v : Option Value) : List (String × Value) :=
  match v with
  | some v => [(name, v)]
  | none => []

def orNull {α : Type} (write : α → Value) : Option α → Value
  | some a => write a
  | none => .null

/-- A timestamp as a string. -/
def timestamp (t : Timestamp) : Value :=
  .string (Rfc3339.format t)

end Json

open Json

namespace Check

def shape : Shape :=
  ⟨"Check", [.of "id" readText .required, .of "device_id" readText .required,
    .of "check_type" readText .required, .of "target" readText .required,
    .of "interval_seconds" readWord64 .required, .of "enabled" readBool .required,
    .of "created_at" readTimestamp .required, .of "updated_at" readTimestamp .required]⟩

def read : Reader Check := fun t => do
  let m ← shape.read .malformed t
  return ⟨← m.get readText "id", ← m.get readText "device_id", ← m.get readText "check_type",
    ← m.get readText "target", ← m.get readWord64 "interval_seconds", ← m.get readBool "enabled",
    ← m.get readTimestamp "created_at", ← m.get readTimestamp "updated_at"⟩

def toJson (c : Check) : Value :=
  .object [("id", .string c.id), ("device_id", .string c.deviceId),
    ("check_type", .string c.checkType), ("target", .string c.target),
    ("interval_seconds", .nat c.intervalSeconds.toNat), ("enabled", .bool c.enabled),
    ("created_at", timestamp c.createdAt), ("updated_at", timestamp c.updatedAt)]

end Check

namespace CheckResult

def shape : Shape :=
  ⟨"CheckResult", [.of "id" (readOptional readInt64) .nullable,
    .of "check_id" readText .required, .of "device_id" readText .required,
    .of "success" readBool .required, .of "latency_ms" readFloat .required,
    .of "packet_loss" readFloat .required,
    .of "error_message" (readOptional readText) .nullable,
    .of "checked_at" readTimestamp .required]⟩

def read : Reader CheckResult := fun t => do
  let m ← shape.read .malformed t
  return ⟨← m.getOptional readInt64 "id", ← m.get readText "check_id",
    ← m.get readText "device_id", ← m.get readBool "success", ← m.get readFloat "latency_ms",
    ← m.get readFloat "packet_loss", ← m.getOptional readText "error_message",
    ← m.get readTimestamp "checked_at"⟩

/-- The written form of a result; an error text that is not there is left out. -/
def toJson (r : CheckResult) : Value :=
  .object ([("id", orNull .int r.id), ("check_id", .string r.checkId),
    ("device_id", .string r.deviceId), ("success", .bool r.success),
    ("latency_ms", .float r.latencyMs), ("packet_loss", .float r.packetLoss)] ++
    optionalMember "error_message" (r.errorMessage.map .string) ++
    [("checked_at", timestamp r.checkedAt)])

end CheckResult

namespace ProbeOutcome

def shape : Shape :=
  ⟨"ProbeOutcome", [.of "success" readBool .required, .of "latency_ms" readFloat .required,
    .of "packet_loss" readFloat .required, .of "error" (readOptional readText) .nullable]⟩

def read : Reader ProbeOutcome := fun t => do
  let m ← shape.read .malformed t
  return ⟨← m.get readBool "success", ← m.get readFloat "latency_ms",
    ← m.get readFloat "packet_loss", ← m.getOptional readText "error"⟩

def toJson (o : ProbeOutcome) : Value :=
  .object [("success", .bool o.success), ("latency_ms", .float o.latencyMs),
    ("packet_loss", .float o.packetLoss), ("error", orNull .string o.error)]

end ProbeOutcome

end NetWatch
