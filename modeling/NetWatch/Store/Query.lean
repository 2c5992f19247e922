/-
NetWatch.Store.Query — what can be asked of the store, and what it answers (the
methods of `Store`).

Every query is one statement. Those that write answer with nothing or with a
count, those that read with records. A query that fails says what it was about
and what went wrong, and has changed nothing.
-/
import NetWatch.Store.Row
import NetWatch.Validation

namespace NetWatch

/-! ## Tables and errors -/

/-- The tables of the store. -/
inductive Table where
  | checks
  | results
  | alerts
  | devices
  | dependencies
  | channels
  | windows
  deriving DecidableEq, Repr

def Table.name : Table → String
  | .checks => "checks"
  | .results => "check_results"
  | .alerts => "alerts"
  | .devices => "devices"
  | .dependencies => "check_dependencies"
  | .channels => "notification_channels"
  | .windows => "maint_windows"

def Table.all : List Table :=
  [.checks, .results, .alerts, .devices, .dependencies, .channels, .windows]

def Table.named? (name : String) : Option Table :=
  all.find? (·.name == name)

/-- What goes wrong in a statement or in reading its rows. -/
inductive StoreFault where
  /-- A row with this key is there already. -/
  | taken (table : Table) (column : String)
  /-- The column must hold a number. -/
  | noNumber (table : Table) (column : String)
  /-- The row refers to one that is not there. -/
  | noSuchParent
  | noTable (table : Table)
  /-- The row may not be changed. -/
  | refused
  | unknownSeverity (tag : String)
  | unreadableDevices (e : Json.ReadError)
  deriving Repr

/-- How the database words a failure (`libsql::Error`). -/
def databaseFailure (what : String) : String :=
  "SQLite failure: `" ++ what ++ "`"

def StoreFault.message : StoreFault → String
  | .taken table column =>
    databaseFailure ("UNIQUE constraint failed: " ++ table.name ++ "." ++ column)
  | .noNumber table column =>
    databaseFailure ("NOT NULL constraint failed: " ++ table.name ++ "." ++ column)
  | .noSuchParent => databaseFailure "FOREIGN KEY constraint failed"
  | .noTable table => databaseFailure ("no such table: " ++ table.name)
  | .refused => databaseFailure "injected fault"
  | .unknownSeverity tag => "unknown severity: " ++ tag
  | .unreadableDevices e => "decode window device ids: " ++ e.message

inductive StoreError where
  /-- What was to be written is refused before any statement is made. -/
  | invalid (e : ValidationError)
  /-- The statement failed; `context` says what it was for. -/
  | failed (context : Option String) (fault : StoreFault)
  deriving Repr

/-- The wording of an error: the context, then the cause. -/
def StoreError.message : StoreError → String
  | .invalid e => e.message
  | .failed (some context) fault => context ++ ": " ++ fault.message
  | .failed none fault => fault.message

/-! ## Queries -/

/-- What can be asked of the store; each query is the method of `Store` with its name in words, as
`get_active_alert` for the open alert of a check. -/
inductive Query where
  | insertCheck (c : Check)
  | check (id : String)
  /-- The first check of a device. -/
  | checkOfDevice (deviceId : String)
  | checks
  | enabledChecks
  | updateCheck (c : Check)
  | enableCheck (id : String) (enabled : Bool) (time : Timestamp)
  /-- Deletes a check with its dependencies. -/
  | deleteCheck (id : String)
  | insertResult (r : CheckResult)
  /-- The newest results of a device. -/
  | results (deviceId : String) (limit : UInt64)
  | deleteResultsBefore (cutoff : Timestamp)
  | insertAlert (a : Alert)
  | alert (id : String)
  /-- The newest open alert of a check. -/
  | activeAlert (checkId : String)
  | resolveAlert (id : String) (time : Timestamp)
  | acknowledgeAlert (id : String) (time : Timestamp)
  | alerts (filter : AlertFilter)
  | activeAlerts (deviceId : Option String)
  | deleteAlertsBefore (cutoff : Timestamp)
  /-- Enters a device or what is new about it; a last sighting is never unset. -/
  | upsertDevice (d : Device)
  | device (id : String)
  /-- Notes that a device answered. -/
  | touchDevice (id : String) (time : Timestamp)
  /-- The open alerts of a device raised at a moment or later. -/
  | activeAlertsSince (deviceId : String) (since : Timestamp)
  | addDependency (checkId deviceId : String) (time : Timestamp)
  | removeDependency (checkId deviceId : String)
  | dependencies (checkId : String)
  /-- The first device that a check depends on and that has an open alert. -/
  | blockingDevice (checkId : String)
  | insertWindow (w : Window)
  | window (id : String)
  | windows
  | enabledWindows
  | updateWindow (w : Window)
  | deleteWindow (id : String)
  | insertChannel (c : Channel)
  | channel (id : String)
  | channels
  | enabledChannels
  | updateChannel (c : Channel)
  | deleteChannel (id : String)
  deriving Repr

namespace Query

def Answer : Query → Type
  | .insertCheck _ => Unit
  | .check _ => Option Check
  | .checkOfDevice _ => Option Check
  | .checks => List Check
  | .enabledChecks => List Check
  | .updateCheck _ => Unit
  | .enableCheck _ _ _ => Unit
  | .deleteCheck _ => Unit
  | .insertResult _ => Nat
  | .results _ _ => List CheckResult
  | .deleteResultsBefore _ => Nat
  | .insertAlert _ => Unit
  | .alert _ => Option Alert
  | .activeAlert _ => Option Alert
  | .resolveAlert _ _ => Unit
  | .acknowledgeAlert _ _ => Unit
  | .alerts _ => List Alert
  | .activeAlerts _ => List Alert
  | .deleteAlertsBefore _ => Nat
  | .upsertDevice _ => Unit
  | .device _ => Option Device
  | .touchDevice _ _ => Unit
  | .activeAlertsSince _ _ => List Alert
  | .addDependency _ _ _ => Unit
  | .removeDependency _ _ => Unit
  | .dependencies _ => List Dependency
  | .blockingDevice _ => Option String
  | .insertWindow _ => Unit
  | .window _ => Option Window
  | .windows => List Window
  | .enabledWindows => List Window
  | .updateWindow _ => Unit
  | .deleteWindow _ => Unit
  | .insertChannel _ => Unit
  | .channel _ => Option Channel
  | .channels => List Channel
  | .enabledChannels => List Channel
  | .updateChannel _ => Unit
  | .deleteChannel _ => Unit

/-- The answer to a query, or why there is none. -/
abbrev Reply (q : Query) := Except StoreError q.Answer

def context : Query → String
  | .insertCheck _ => "insert check"
  | .check _ => "get check"
  | .checkOfDevice _ => "get check by device"
  | .checks => "list checks"
  | .enabledChecks => "list enabled checks"
  | .updateCheck _ => "update check"
  | .enableCheck _ _ _ => "update check enabled"
  | .deleteCheck _ => "delete check"
  | .insertResult _ => "insert result"
  | .results _ _ => "list results"
  | .deleteResultsBefore _ => "delete old results"
  | .insertAlert _ => "insert alert"
  | .alert _ => "get alert"
  | .activeAlert _ => "get active alert"
  | .resolveAlert _ _ => "resolve alert"
  | .acknowledgeAlert _ _ => "acknowledge alert"
  | .alerts _ => "list alerts"
  | .activeAlerts _ => "list active alerts"
  | .deleteAlertsBefore _ => "delete old alerts"
  | .upsertDevice _ => "upsert device"
  | .device _ => "get device"
  | .touchDevice _ _ => "update device last seen"
  | .activeAlertsSince _ _ => "get parent active alerts"
  | .addDependency _ _ _ => "add check dependency"
  | .removeDependency _ _ => "remove check dependency"
  | .dependencies _ => "list check dependencies"
  | .blockingDevice _ => "check suppression"
  | .insertWindow _ => "insert maintenance window"
  | .window _ => "get maintenance window"
  | .windows => "list maintenance windows"
  | .enabledWindows => "list enabled maintenance windows"
  | .updateWindow _ => "update maintenance window"
  | .deleteWindow _ => "delete maintenance window"
  | .insertChannel _ => "insert notification channel"
  | .channel _ => "get notification channel"
  | .channels => "list notification channels"
  | .enabledChannels => "list enabled notification channels"
  | .updateChannel _ => "update notification channel"
  | .deleteChannel _ => "delete notification channel"

/-- Why what a query would write is refused. -/
def refusal? : Query → Option ValidationError
  | .insertCheck c => refusalOf (Target.validate c.checkType c.target)
  | .updateCheck c => refusalOf (Target.validate c.checkType c.target)
  | .insertWindow w => refusalOf w.validate
  | .updateWindow w => refusalOf w.validate
  | _ => none
where
  refusalOf : Except ValidationError Unit → Option ValidationError
    | .ok _ => none
    | .error e => some e

/-- The error of a query whose statement fails. -/
def failed (q : Query) (fault : StoreFault) : StoreError :=
  .failed (some q.context) fault

end Query

end NetWatch
