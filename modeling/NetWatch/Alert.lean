/-
NetWatch.Alert — problems that checks have, from the moment they are noticed
(`Alert`).

An alert is open until it is resolved, and resolving is final. It may be marked
as suppressed from the start: it is kept, but nobody is told of it. The device
whose own trouble explains a suppressed alert is named in it, if there is one.
-/
import NetWatch.Check

namespace NetWatch

open Json

/-- How bad a problem is (`Severity`). -/
inductive Severity where
  | warning
  | critical
  deriving DecidableEq, Repr

namespace Severity

def name : Severity → String
  | .warning => "warning"
  | .critical => "critical"

def tags : List (String × Severity) :=
  [("warning", .warning), ("critical", .critical)]

/-- The severity of a tag (`Severity::from_str`). -/
def named? (tag : String) : Option Severity :=
  (tags.find? (·.1 == tag)).map (·.2)

theorem named?_name (s : Severity) : named? s.name = some s := by
  cases s <;> decide

end Severity

/-- One problem of one check. -/
structure Alert where
  id : String
  checkId : String
  deviceId : String
  severity : Severity
  message : String
  triggeredAt : Timestamp
  resolvedAt : Option Timestamp
  acknowledgedAt : Option Timestamp
  /-- How long the run of failures was when the alert was raised. -/
  consecutiveFailures : UInt32
  suppressed : Bool
  /-- The device that explains why the alert is suppressed. -/
  suppressedBy : Option String
  deriving DecidableEq, Repr

namespace Alert

/-- Whether the problem goes on (`is_active`). -/
def isActive (a : Alert) : Bool :=
  a.resolvedAt.isNone

def shape : Shape :=
  ⟨"Alert", [.of "id" readText .required, .of "check_id" readText .required,
    .of "device_id" readText .required, .of "severity" (readTag Severity.tags) .required,
    .of "message" readText .required, .of "triggered_at" readTimestamp .required,
    .of "resolved_at" (readOptional readTimestamp) .nullable,
    .of "acknowledged_at" (readOptional readTimestamp) .nullable,
    .of "consecutive_failures" readWord32 .required, .of "suppressed" readBool .required,
    .of "suppressed_by" (readOptional readText) .nullable]⟩

def read : Reader Alert := fun t => do
  let m ← shape.read .malformed t
  return ⟨← m.get readText "id", ← m.get readText "check_id", ← m.get readText "device_id",
    ← m.get (readTag Severity.tags) "severity", ← m.get readText "message",
    ← m.get readTimestamp "triggered_at", ← m.getOptional readTimestamp "resolved_at",
    ← m.getOptional readTimestamp "acknowledged_at", ← m.get readWord32 "consecutive_failures",
    ← m.get readBool "suppressed", ← m.getOptional readText "suppressed_by"⟩

/-- The written form of an alert; what is unset is left out. -/
def toJson (a : Alert) : Value :=
  .object ([("id", .string a.id), ("check_id", .string a.checkId),
    ("device_id", .string a.deviceId), ("severity", .string a.severity.name),
    ("message", .string a.message), ("triggered_at", timestamp a.triggeredAt)] ++
    optionalMember "resolved_at" (a.resolvedAt.map timestamp) ++
    optionalMember "acknowledged_at" (a.acknowledgedAt.map timestamp) ++
    [("consecutive_failures", .nat a.consecutiveFailures.toNat),
      ("suppressed", .bool a.suppressed)] ++
    optionalMember "suppressed_by" (a.suppressedBy.map .string))

end Alert

/-- Which alerts to list (`AlertFilter`); what is unset matches every alert. -/
structure AlertFilter where
  deviceId : Option String
  severity : Option Severity
  activeOnly : Bool
  suppressed : Option Bool
  /-- How many at most; 0 stands for the usual number. -/
  limit : UInt64
  deriving DecidableEq, Repr

end NetWatch
