/-
NetWatch.Maintenance — whether a device is being worked on
(`MaintenanceEvaluator`).

A device is under maintenance while an enabled window that covers it is in
force.
-/
import NetWatch.Script

namespace NetWatch.Maintenance

/-- Whether one of the windows covers the device and is in force. -/
def covered (windows : List Window) (now : Timestamp) (deviceId : String) : Bool :=
  windows.any fun w => w.enabled && w.coversDevice deviceId && w.inForce now

/-- Looks up whether the device is under maintenance at a moment (`is_device_in_window`). -/
def ofDevice (now : Timestamp) (deviceId : String) : Script (Except StoreError Bool) := do
  let windows ← Script.query .enabledWindows
  return windows.map fun ws => covered ws now deviceId

end NetWatch.Maintenance
