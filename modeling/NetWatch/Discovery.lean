/-
NetWatch.Discovery — devices that are announced from outside
(`EventListener::provision`).

An announced device is recorded. If no check belongs to it, it gets one of type
`icmp`, aimed at its address; a device that has a check keeps what it has.
-/
import NetWatch.Script

namespace NetWatch

/-- What is known of an announced device; when it last answered is not. -/
def DiscoveredDevice.toDevice (d : DiscoveredDevice) : Device :=
  ⟨d.id, d.hostname, d.parentId, none⟩

namespace Discovery

/-- Records an announced device, giving it a check under the name `id` if it has none
(`EventListener::provision`); yields whether it was given one. -/
def provision (d : DiscoveredDevice) (id : String) : Script (Except StoreError Bool) := do
  match ← Script.query (.upsertDevice d.toDevice) with
  | .error e => return .error e
  | .ok _ =>
    match ← Script.query (.checkOfDevice d.id) with
    | .error e => return .error e
    | .ok (some _) => return .ok false
    | .ok none =>
      let now ← Script.now
      match ← Script.query (.insertCheck (.create id d.id ProbeKind.icmp.name d.ipAddress now)) with
      | .error e => return .error e
      | .ok _ => return .ok true

end Discovery

end NetWatch
