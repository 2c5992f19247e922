/-
NetWatch.Retention — deleting what is too old to be kept (`RetentionCleanup`).

Results go once they were checked longer ago than the retention, alerts once
they were resolved longer ago. An alert that is open stays, however old.
-/
import NetWatch.Script

namespace NetWatch.Retention

/-- How many rows a cleanup removed (`CleanupReport`). -/
structure Report where
  results : Nat
  alerts : Nat
  deriving DecidableEq, Repr

/-- Deletes all that is older than the retention (`cleanup_expired`). -/
def cleanup (retention : Duration) : Script (Except StoreError Report) := do
  let cutoff ← Script.ago retention
  match ← Script.query (.deleteResultsBefore cutoff) with
  | .error e => return .error e
  | .ok results =>
    match ← Script.query (.deleteAlertsBefore cutoff) with
    | .error e => return .error e
    | .ok alerts => return .ok ⟨results, alerts⟩

end NetWatch.Retention
