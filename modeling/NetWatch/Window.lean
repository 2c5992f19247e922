/-
NetWatch.Window — planned maintenance, during which alerts are suppressed
(`MaintWindow`).

A window covers a list of devices from a start to an end. One that recurs takes
only the time of day from its ends, and the weekday or the day of the month
from its start. The recurrence is kept as the tag it was given as; a tag that
is not known never matches.
-/
import NetWatch.Check

namespace NetWatch

open Json

/-- How a window comes back (`Recurrence`). -/
inductive Recurrence where
  | once
  | daily
  | weekly
  | monthly
  deriving DecidableEq, Repr

namespace Recurrence

def name : Recurrence → String
  | .once => "once"
  | .daily => "daily"
  | .weekly => "weekly"
  | .monthly => "monthly"

def tags : List (String × Recurrence) :=
  [("once", .once), ("daily", .daily), ("weekly", .weekly), ("monthly", .monthly)]

/-- The recurrence of a tag (`Recurrence::parse`). -/
def named? (tag : String) : Option Recurrence :=
  (tags.find? (·.1 == tag)).map (·.2)

theorem named?_name (r : Recurrence) : named? r.name = some r := by
  cases r <;> decide

end Recurrence

/-- Planned maintenance of some devices (`MaintWindow`). -/
structure Window where
  id : String
  name : String
  description : String
  startTime : Timestamp
  endTime : Timestamp
  /-- The tag of the recurrence, as given. -/
  recurrence : String
  deviceIds : List String
  enabled : Bool
  createdAt : Timestamp
  updatedAt : Timestamp
  deriving DecidableEq, Repr

namespace Window

/-- A new window, enabled and without description (`MaintWindow::new`). -/
def create (id name : String) (startTime endTime : Timestamp) (recurrence : Recurrence)
    (deviceIds : List String) (now : Timestamp) : Window :=
  ⟨id, name, "", startTime, endTime, recurrence.name, deviceIds, true, now, now⟩

/-- Whether the device is among those under maintenance (`covers_device`). -/
def coversDevice (w : Window) (deviceId : String) : Bool :=
  w.deviceIds.any (· == deviceId)

def shape : Shape :=
  ⟨"MaintWindow", [.of "id" readText .required, .of "name" readText .required,
    .of "description" readText .required, .of "start_time" readTimestamp .required,
    .of "end_time" readTimestamp .required, .of "recurrence" readText .required,
    .of "device_ids" (readList readText) .required, .of "enabled" readBool .required,
    .of "created_at" readTimestamp .required, .of "updated_at" readTimestamp .required]⟩

def read : Reader Window := fun t => do
  let m ← shape.read .malformed t
  return ⟨← m.get readText "id", ← m.get readText "name", ← m.get readText "description",
    ← m.get readTimestamp "start_time", ← m.get readTimestamp "end_time",
    ← m.get readText "recurrence", ← m.get (readList readText) "device_ids",
    ← m.get readBool "enabled", ← m.get readTimestamp "created_at",
    ← m.get readTimestamp "updated_at"⟩

def deviceIdsJson (ids : List String) : Value :=
  .array (ids.map .string)

def toJson (w : Window) : Value :=
  .object [("id", .string w.id), ("name", .string w.name),
    ("description", .string w.description), ("start_time", timestamp w.startTime),
    ("end_time", timestamp w.endTime), ("recurrence", .string w.recurrence),
    ("device_ids", deviceIdsJson w.deviceIds), ("enabled", .bool w.enabled),
    ("created_at", timestamp w.createdAt), ("updated_at", timestamp w.updatedAt)]

end Window

/-! ## When a window is in force -/

/-- Whether a time of day lies between two others, both included (`time_of_day_in_range`); the span
goes past midnight when its end comes before its start. -/
def timeOfDayWithin (now start stop : Timestamp) : Bool :=
  let t := now.secondOfDay
  let s := start.secondOfDay
  let e := stop.secondOfDay
  if s ≤ e then s ≤ t && t ≤ e else s ≤ t || t ≤ e

/-- Whether a moment falls into a window from `start` to `stop`. -/
def Recurrence.holds (r : Recurrence) (now start stop : Timestamp) : Bool :=
  match r with
  | .once => start ≤ now && now ≤ stop
  | .daily => timeOfDayWithin now start stop
  | .weekly =>
    Date.weekday now.dayNumber == Date.weekday start.dayNumber && timeOfDayWithin now start stop
  | .monthly => now.date.day == start.date.day && timeOfDayWithin now start stop

/-- Whether a moment falls into a window with a recurrence given by its tag (`in_window`). -/
def inWindow (now start stop : Timestamp) (recurrence : String) : Bool :=
  match Recurrence.named? recurrence with
  | some r => r.holds now start stop
  | none => false

def Window.inForce (w : Window) (now : Timestamp) : Bool :=
  inWindow now w.startTime w.endTime w.recurrence

end NetWatch
