/-
NetWatch.Device — the devices that checks belong to, and how they hang together
(`Device`, `CheckDependency`, `DiscoveredDevice`).

A device may hang off one other, its parent. A check may depend on devices that
are neither its own nor the parent of its own. Devices can be announced from
outside; an announcement carries the address that the device answers at.
-/
import NetWatch.Check

namespace NetWatch

open Json

/-- A device of the network. -/
structure Device where
  id : String
  hostname : String
  /-- The device it hangs off. -/
  parentId : Option String
  /-- When it last answered a probe. -/
  lastSeen : Option Timestamp
  deriving DecidableEq, Repr

namespace Device

/-- A device of which no more is known than its name (`Device::new`). -/
def create (id hostname : String) : Device :=
  ⟨id, hostname, none, none⟩

/-- The device below a parent (`with_parent`). -/
def withParent (d : Device) (parent : String) : Device :=
  { d with parentId := some parent }

def shape : Shape :=
  ⟨"Device", [.of "id" readText .required, .of "hostname" readText .required,
    .of "parent_device_id" (readOptional readText) .nullable,
    .of "last_seen" (readOptional readTimestamp) .nullable]⟩

def read : Reader Device := fun t => do
  let m ← shape.read .malformed t
  return ⟨← m.get readText "id", ← m.get readText "hostname",
    ← m.getOptional readText "parent_device_id", ← m.getOptional readTimestamp "last_seen"⟩

def toJson (d : Device) : Value :=
  .object [("id", .string d.id), ("hostname", .string d.hostname),
    ("parent_device_id", orNull .string d.parentId),
    ("last_seen", orNull timestamp d.lastSeen)]

end Device

/-- A check depends on a device (`CheckDependency`). -/
structure Dependency where
  checkId : String
  deviceId : String
  createdAt : Timestamp
  deriving DecidableEq, Repr

namespace Dependency

def shape : Shape :=
  ⟨"CheckDependency", [.of "check_id" readText .required, .of "device_id" readText .required,
    .of "created_at" readTimestamp .required]⟩

def read : Reader Dependency := fun t => do
  let m ← shape.read .malformed t
  return ⟨← m.get readText "check_id", ← m.get readText "device_id",
    ← m.get readTimestamp "created_at"⟩

def toJson (d : Dependency) : Value :=
  .object [("check_id", .string d.checkId), ("device_id", .string d.deviceId),
    ("created_at", timestamp d.createdAt)]

end Dependency

/-- A device that was announced. -/
structure DiscoveredDevice where
  id : String
  hostname : String
  /-- The address that an `icmp` check can be aimed at. -/
  ipAddress : String
  parentId : Option String
  deriving DecidableEq, Repr

namespace DiscoveredDevice

def shape : Shape :=
  ⟨"DiscoveredDevice", [.of "id" readText .required, .of "hostname" readText .defaulted,
    .of "ip_address" readText .required,
    .of "parent_device_id" (readOptional readText) .defaulted]⟩

def read : Reader DiscoveredDevice := fun t => do
  let m ← shape.read .malformed t
  return ⟨← m.get readText "id", ← m.getD readText "hostname" "",
    ← m.get readText "ip_address", ← m.getOptional readText "parent_device_id"⟩

def toJson (d : DiscoveredDevice) : Value :=
  .object [("id", .string d.id), ("hostname", .string d.hostname),
    ("ip_address", .string d.ipAddress), ("parent_device_id", orNull .string d.parentId)]

end DiscoveredDevice

end NetWatch
