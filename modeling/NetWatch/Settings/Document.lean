/-
NetWatch.Settings.Document — settings as a TOML document (`toml::from_str`,
`to_string`).

Every part of the settings is a table of the document. What the document does
not mention has its default; keys that are no settings are passed over. A
number of 2⁶³ or more cannot be written.
-/
import NetWatch.Settings.Basic
import NetWatch.Toml.Document

namespace NetWatch.Settings

open Json

/-! ## Reading -/

/-- The settings in a document, unless it is malformed or holds values that are none. -/
def ofToml? (text : String) : Option Settings :=
  match Toml.ofText? text with
  | none => none
  | some v =>
    match read .ignored (Tree.ofValue v) with
    | .ok s => some s
    | .error _ => none

/-! ## Writing -/

/-- A key with its value, on a line of its own. -/
def entry (key : String) (value : List Char) : List Char :=
  key.toList ++ [' ', '=', ' '] ++ value ++ ['\n']

/-- The header of a table, on a line of its own. -/
def tableHeader (name : String) : List Char :=
  '[' :: name.toList ++ [']', '\n']

/-- Whether every number can be written. -/
def isWritable (s : Settings) : Bool :=
  [s.monitor.checkIntervalSecs, s.monitor.pingTimeoutSecs, s.monitor.maxWorkers,
    s.monitor.maintenanceIntervalSecs, s.monitor.correlationWindowSecs,
    s.notifications.timeoutSecs, s.database.maxConnections].all fun n =>
      n.toNat < 9223372036854775808

def tomlText (s : Settings) : List Char :=
  let m := s.monitor
  tableHeader "pulse" ++
    entry "check_interval_secs" (Text.decimal m.checkIntervalSecs.toNat) ++
    entry "ping_timeout_secs" (Text.decimal m.pingTimeoutSecs.toNat) ++
    entry "ping_count" (Text.decimal m.pingCount.toNat) ++
    entry "consecutive_failures" (Text.decimal m.consecutiveFailures.toNat) ++
    entry "retention_days" (Text.decimal m.retentionDays.toNat) ++
    entry "max_workers" (Text.decimal m.maxWorkers.toNat) ++
    entry "maintenance_interval_secs" (Text.decimal m.maintenanceIntervalSecs.toNat) ++
    entry "correlation_window_secs" (Text.decimal m.correlationWindowSecs.toNat) ++
    ['\n'] ++
    tableHeader "notifications" ++
    entry "timeout_secs" (Text.decimal s.notifications.timeoutSecs.toNat) ++
    ['\n'] ++
    tableHeader "database" ++
    entry "path" (Toml.writeString s.database.path.toList) ++
    entry "max_connections" (Text.decimal s.database.maxConnections.toNat)

/-- The document for settings, if they can be written. -/
def toToml? (s : Settings) : Option String :=
  if s.isWritable then some (String.ofList s.tomlText) else none

end NetWatch.Settings
