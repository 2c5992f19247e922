/-
NetWatch.Schema.Migration — bringing a database up to the schema of the store
(`run_migrations`).

The schema has grown in versions. A migration takes a database from whatever
version it has reached to the newest one, version by version, and notes each
one down once all of its statements have run. Every statement is kept as soon
as it has run; a migration that is interrupted leaves those that came before.
-/
import NetWatch.Schema.Basic

namespace NetWatch.Schema

/-- What takes the schema from one version to the next. -/
structure Version where
  number : Int
  description : String
  statements : List Statement

/-- Checks, results and alerts (`run_migration_v1`). -/
def version1 : Version :=
  ⟨1, "Create checks, results and alerts",
    [.createTable "checks"
      ["id", "device_id", "check_type", "target", "interval_seconds", "enabled", "created_at",
        "updated_at"],
    .createIndex "idx_checks_device" "checks",
    .createTable "check_results"
      ["id", "check_id", "device_id", "success", "latency_ms", "packet_loss", "error_message",
        "checked_at"],
    .createIndex "idx_results_device_time" "check_results",
    .createIndex "idx_results_check_time" "check_results",
    .createTable "alerts"
      ["id", "check_id", "device_id", "severity", "message", "triggered_at", "resolved_at",
        "consecutive_failures"],
    .createIndex "idx_alerts_device" "alerts",
    .createIndex "idx_alerts_check" "alerts"]⟩

/-- Devices, dependencies, and the acknowledging and suppressing of alerts (`run_migration_v2`). -/
def version2 : Version :=
  ⟨2, "Add devices, dependencies and alert suppression",
    [.createTable "devices" ["id", "hostname", "parent_device_id", "last_seen"],
    .createTable "check_dependencies" ["check_id", "device_id", "created_at"],
    .createIndex "idx_dependencies_device" "check_dependencies",
    .addColumn "alerts" "acknowledged_at" .null,
    .addColumn "alerts" "suppressed" (.integer 0),
    .addColumn "alerts" "suppressed_by" .null]⟩

/-- Channels (`run_migration_v3`). -/
def version3 : Version :=
  ⟨3, "Create notification channels",
    [.createTable "notification_channels"
      ["id", "name", "type", "config", "enabled", "created_at", "updated_at"]]⟩

/-- Windows (`run_migration_v4`). -/
def version4 : Version :=
  ⟨4, "Create maintenance windows",
    [.createTable "maint_windows"
      ["id", "name", "description", "start_time", "end_time", "recurrence", "device_ids",
        "enabled", "created_at", "updated_at"]]⟩

def allVersions : List Version :=
  [version1, version2, version3, version4]

/-- The version that is aimed at (`SCHEMA_VERSION`). -/
def newest : Int := 4

/-- The statements of a version and the note that it has been reached. -/
def Version.steps (v : Version) : List Statement :=
  v.statements ++ [.note v.number v.description]

def createJournal : Statement :=
  .createTable journal ["version", "applied_at", "description"]

/-- What is left to do from a version on. -/
def remaining (reached : Int) : List Statement :=
  (allVersions.filter (reached < ·.number)).flatMap Version.steps

def migration (d : Database) : List Statement :=
  let reached := (d.executeAll .epoch [createJournal]).1.version
  createJournal :: remaining reached

/-- Brings a database up to the newest version (`run_migrations`). -/
def migrate (d : Database) (now : Timestamp) : Database × Except Fault Unit :=
  d.executeAll now (migration d)

/-- A migration that is interrupted once so many statements have run. -/
def interrupted (d : Database) (now : Timestamp) (count : Nat) : Database :=
  (d.executeAll now ((migration d).take count)).1

end NetWatch.Schema
