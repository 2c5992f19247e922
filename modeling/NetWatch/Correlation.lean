/-
NetWatch.Correlation — whether a device's trouble is explained by its parent's
(`CorrelationEngine`).

A device is explained when its parent has an open alert that was raised within
the correlation window. Only the parent counts, not what the parent hangs off.

Open alerts can be grouped: an alert that was announced together with the
alerts that its device explains.
-/
import NetWatch.Script

namespace NetWatch.Correlation

/-- The open alerts of a device's parent raised within a span before now, and the parent
(`get_parent_active_alerts`). A device that is not known or has no parent yields neither. -/
def parentAlerts (deviceId : String) (window : Duration) :
    Script (Except StoreError (List Alert × Option String)) := do
  match ← Script.query (.device deviceId) with
  | .error e => return .error e
  | .ok none => return .ok ([], none)
  | .ok (some device) =>
    match (device : Device).parentId with
    | none => return .ok ([], none)
    | some parent =>
      let since ← Script.ago window
      match ← Script.query (.activeAlertsSince parent since) with
      | .error e => return .error e
      | .ok alerts => return .ok (alerts, some parent)

/-- What explains a device's trouble (`Correlation`). -/
structure Finding where
  suppressed : Bool
  parentId : Option String
  deriving DecidableEq, Repr

/-- Nothing explains it. -/
def Finding.none : Finding :=
  ⟨false, Option.none⟩

/-- Looks up what explains a device's trouble (`CorrelationEngine::check`). -/
def ofDevice (deviceId : String) (window : Duration) : Script (Except StoreError Finding) := do
  match ← parentAlerts deviceId window with
  | .error e => return .error e
  | .ok ([], _) => return .ok .none
  | .ok (_ :: _, parent) => return .ok ⟨true, parent⟩

/-! ## Groups -/

/-- An announced alert and the quiet ones that it explains (`CorrelatedGroup`). -/
structure Group where
  parent : Alert
  children : List Alert
  deriving DecidableEq, Repr

/-- The quiet alerts among some that a device explains. -/
def childrenOf (alerts : List Alert) (deviceId : String) : List Alert :=
  alerts.filter fun a => a.suppressed && a.suppressedBy == some deviceId

/-- The first announced alert of every device, in order. -/
def leaders (seen : List String) : List Alert → List Alert
  | [] => []
  | a :: rest =>
    if a.suppressed || seen.contains a.deviceId then leaders seen rest
    else a :: leaders (a.deviceId :: seen) rest

/-- The groups among open alerts; those without children are left out. -/
def groupsOf (alerts : List Alert) : List Group :=
  ((leaders [] alerts).map fun p => ⟨p, childrenOf alerts p.deviceId⟩).filter (·.children ≠ [])

/-- Groups the open alerts, the newest first (`correlated_groups`). -/
def groups : Script (Except StoreError (List Group)) := do
  let active ← Script.query (.activeAlerts none)
  return active.map groupsOf

end NetWatch.Correlation
