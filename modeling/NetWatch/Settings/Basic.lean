/-
NetWatch.Settings.Basic — how the service is set up (`Config`).

Settings have three parts: how checks are run and judged, how long announcing
may take, and where the data is kept. Every setting has a default. Some have
bounds; settings out of bounds are refused by name, the first that is found.
-/
import NetWatch.Alerting
import NetWatch.Json.Reader

namespace NetWatch

/-- How checks are run, judged and kept (`PulseConfig`). -/
structure MonitorSettings where
  checkIntervalSecs : UInt64
  pingTimeoutSecs : UInt64
  pingCount : UInt16
  /-- How many failures in a row raise an alert. -/
  consecutiveFailures : UInt32
  retentionDays : UInt32
  maxWorkers : UInt64
  maintenanceIntervalSecs : UInt64
  correlationWindowSecs : UInt64
  deriving DecidableEq, Repr

/-- How announcing is done (`NotificationsConfig`). -/
structure NotificationSettings where
  timeoutSecs : UInt64
  deriving DecidableEq, Repr

/-- Where the data is kept (`DatabaseConfig`). -/
structure DatabaseSettings where
  path : String
  maxConnections : UInt64
  deriving DecidableEq, Repr

/-- All settings (`Config`). -/
structure Settings where
  monitor : MonitorSettings
  notifications : NotificationSettings
  database : DatabaseSettings
  deriving DecidableEq, Repr

/-! ## Defaults -/

def MonitorSettings.usual : MonitorSettings :=
  ⟨30, 5, 3, 3, 30, 10, 3600, 300⟩

def NotificationSettings.usual : NotificationSettings :=
  ⟨10⟩

def DatabaseSettings.usual : DatabaseSettings :=
  ⟨"pulse.db", 8⟩

def Settings.usual : Settings :=
  ⟨.usual, .usual, .usual⟩

/-! ## Bounds -/

/-- Why settings are refused (`ConfigError::Invalid`). -/
inductive SettingsFault where
  | noWorkers
  | noThreshold
  | outOfRange (name : String) (value low high : Nat)
  deriving DecidableEq, Repr

def SettingsFault.message : SettingsFault → String
  | .noWorkers => "invalid config: pulse.max_workers must be at least 1"
  | .noThreshold => "invalid config: pulse.consecutive_failures must be at least 1"
  | .outOfRange name value low high =>
    "invalid config: " ++ name ++ " must be between " ++ toString low ++ " and " ++
      toString high ++ ", got " ++ toString value

/-- The longest interval between two runs of anything: thirty days. -/
def maximalInterval : Nat := 2592000

/-- The longest correlation window: seven days. -/
def maximalCorrelation : Nat := 604800

/-- The longest retention in days: a hundred years. -/
def maximalRetention : Nat := 36500

/-- Refuses a value that is not between two bounds (`check_range`). -/
def checkRange (name : String) (value low high : Nat) : Except SettingsFault Unit :=
  if value < low ∨ high < value then .error (.outOfRange name value low high) else .ok ()

/-- Refuses settings that the service cannot run with (`Config::validate`). -/
def Settings.validate (s : Settings) : Except SettingsFault Unit :=
  let m := s.monitor
  if m.maxWorkers = 0 then .error .noWorkers
  else if m.consecutiveFailures = 0 then .error .noThreshold
  else do
    checkRange "pulse.check_interval_secs" m.checkIntervalSecs.toNat 1 maximalInterval
    checkRange "pulse.maintenance_interval_secs" m.maintenanceIntervalSecs.toNat 1 maximalInterval
    checkRange "pulse.correlation_window_secs" m.correlationWindowSecs.toNat 0 maximalCorrelation
    checkRange "pulse.retention_days" m.retentionDays.toNat 1 maximalRetention

/-! ## What follows from settings -/

namespace MonitorSettings

/-- The correlation window (`correlation_window`). Its seconds are taken as a number of 64 bits with
sign; a window longer than a span can be is none. -/
def correlationWindow? (m : MonitorSettings) : Option Duration :=
  Duration.ofSeconds? m.correlationWindowSecs.toInt64.toInt

/-- How long results and resolved alerts are kept (`retention`). -/
def retention (m : MonitorSettings) : Duration :=
  .ofDays m.retentionDays

/-- How alerts are raised. -/
def rules? (m : MonitorSettings) : Option AlertRules :=
  m.correlationWindow?.map fun window => .create m.consecutiveFailures (some window) true

end MonitorSettings

/-! ## Display -/

def settingLine (label value : String) : String :=
  "    " ++ label ++ ": " ++ value ++ "\n"

/-- What is shown of settings (the `Display` of `Config`). -/
def Settings.display (s : Settings) : String :=
  let m := s.monitor
  "Current Configuration:\n" ++
    "  Pulse\n" ++
    settingLine "Check Interval (s)" (toString m.checkIntervalSecs.toNat) ++
    settingLine "Ping Timeout (s)" (toString m.pingTimeoutSecs.toNat) ++
    settingLine "Ping Count" (toString m.pingCount.toNat) ++
    settingLine "Alert Threshold" (toString m.consecutiveFailures.toNat) ++
    settingLine "Retention (days)" (toString m.retentionDays.toNat) ++
    settingLine "Max Workers" (toString m.maxWorkers.toNat) ++
    settingLine "Maintenance Interval (s)" (toString m.maintenanceIntervalSecs.toNat) ++
    settingLine "Correlation Window (s)" (toString m.correlationWindowSecs.toNat) ++
    "  Notifications\n" ++
    settingLine "Timeout (s)" (toString s.notifications.timeoutSecs.toNat) ++
    "  Database\n" ++
    settingLine "Path" s.database.path ++
    settingLine "Max Connections" (toString s.database.maxConnections.toNat)

/-! ## Reading -/

open Json

namespace MonitorSettings

def shape : Shape :=
  ⟨"PulseConfig", [.of "check_interval_secs" readWord64 .defaulted,
    .of "ping_timeout_secs" readWord64 .defaulted, .of "ping_count" readWord16 .defaulted,
    .of "consecutive_failures" readWord32 .defaulted, .of "retention_days" readWord32 .defaulted,
    .of "max_workers" readSize .defaulted, .of "maintenance_interval_secs" readWord64 .defaulted,
    .of "correlation_window_secs" readWord64 .defaulted]⟩

/-- Reads this part; what is not given has its default. -/
def read (surplus : Surplus) : Reader MonitorSettings := fun t => do
  let m ← shape.read surplus t
  let d := usual
  return ⟨← m.getD readWord64 "check_interval_secs" d.checkIntervalSecs,
    ← m.getD readWord64 "ping_timeout_secs" d.pingTimeoutSecs,
    ← m.getD readWord16 "ping_count" d.pingCount,
    ← m.getD readWord32 "consecutive_failures" d.consecutiveFailures,
    ← m.getD readWord32 "retention_days" d.retentionDays,
    ← m.getD readSize "max_workers" d.maxWorkers,
    ← m.getD readWord64 "maintenance_interval_secs" d.maintenanceIntervalSecs,
    ← m.getD readWord64 "correlation_window_secs" d.correlationWindowSecs⟩

end MonitorSettings

namespace NotificationSettings

def shape : Shape :=
  ⟨"NotificationsConfig", [.of "timeout_secs" readWord64 .defaulted]⟩

/-- Reads this part; what is not given has its default. -/
def read (surplus : Surplus) : Reader NotificationSettings := fun t => do
  let m ← shape.read surplus t
  return ⟨← m.getD readWord64 "timeout_secs" usual.timeoutSecs⟩

end NotificationSettings

namespace DatabaseSettings

def shape : Shape :=
  ⟨"DatabaseConfig", [.of "path" readText .defaulted, .of "max_connections" readSize .defaulted]⟩

/-- Reads this part; what is not given has its default. -/
def read (surplus : Surplus) : Reader DatabaseSettings := fun t => do
  let m ← shape.read surplus t
  return ⟨← m.getD readText "path" usual.path,
    ← m.getD readSize "max_connections" usual.maxConnections⟩

end DatabaseSettings

namespace Settings

/-- The parts of the settings. -/
def shape (surplus : Surplus) : Shape :=
  ⟨"Config", [.of "pulse" (MonitorSettings.read surplus) .defaulted,
    .of "notifications" (NotificationSettings.read surplus) .defaulted,
    .of "database" (DatabaseSettings.read surplus) .defaulted]⟩

/-- Reads all settings; a part that is not given has its defaults. -/
def read (surplus : Surplus) : Reader Settings := fun t => do
  let m ← (shape surplus).read surplus t
  return ⟨← m.getD (MonitorSettings.read surplus) "pulse" .usual,
    ← m.getD (NotificationSettings.read surplus) "notifications" .usual,
    ← m.getD (DatabaseSettings.read surplus) "database" .usual⟩

def toJson (s : Settings) : Value :=
  let m := s.monitor
  .object [
    ("pulse", .object [("check_interval_secs", .nat m.checkIntervalSecs.toNat),
      ("ping_timeout_secs", .nat m.pingTimeoutSecs.toNat), ("ping_count", .nat m.pingCount.toNat),
      ("consecutive_failures", .nat m.consecutiveFailures.toNat),
      ("retention_days", .nat m.retentionDays.toNat), ("max_workers", .nat m.maxWorkers.toNat),
      ("maintenance_interval_secs", .nat m.maintenanceIntervalSecs.toNat),
      ("correlation_window_secs", .nat m.correlationWindowSecs.toNat)]),
    ("notifications", .object [("timeout_secs", .nat s.notifications.timeoutSecs.toNat)]),
    ("database", .object [("path", .string s.database.path),
      ("max_connections", .nat s.database.maxConnections.toNat)])]

end Settings

end NetWatch
