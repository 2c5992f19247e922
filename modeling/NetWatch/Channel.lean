/-
NetWatch.Channel — where alerts are announced (`NotificationChannel`).

A channel has a type and a configuration, which is JSON text that only the
notifier of the type understands. For display the secrets in it are masked.
-/
import NetWatch.Check

namespace NetWatch

open Json

/-- A configured way to announce alerts (`NotificationChannel`). -/
structure Channel where
  id : String
  name : String
  /-- The tag of the notifier that serves it. -/
  channelType : String
  /-- JSON text for that notifier. -/
  config : String
  enabled : Bool
  createdAt : Timestamp
  updatedAt : Timestamp
  deriving DecidableEq, Repr

namespace Channel

/-- A new channel, enabled (`NotificationChannel::new`); its type is part of its name tag. -/
def create (serial name channelType config : String) (now : Timestamp) : Channel :=
  ⟨"notif-" ++ channelType ++ "-" ++ serial, name, channelType, config, true, now, now⟩

def shape : Shape :=
  ⟨"NotificationChannel", [.of "id" readText .required, .of "name" readText .required,
    .of "type" readText .required, .of "config" readText .required,
    .of "enabled" readBool .required, .of "created_at" readTimestamp .required,
    .of "updated_at" readTimestamp .required]⟩

def read : Reader Channel := fun t => do
  let m ← shape.read .malformed t
  return ⟨← m.get readText "id", ← m.get readText "name", ← m.get readText "type",
    ← m.get readText "config", ← m.get readBool "enabled", ← m.get readTimestamp "created_at",
    ← m.get readTimestamp "updated_at"⟩

def toJson (c : Channel) : Value :=
  .object [("id", .string c.id), ("name", .string c.name), ("type", .string c.channelType),
    ("config", .string c.config), ("enabled", .bool c.enabled),
    ("created_at", timestamp c.createdAt), ("updated_at", timestamp c.updatedAt)]

/-! ## Masking -/

/-- The members whose values are secret. -/
def secretNames : List String :=
  ["secret", "password"]

/-- A member as it may be shown: a secret that is set becomes four stars. -/
def maskMember (name : String) (v : Value) : Value :=
  match v with
  | .string s => if secretNames.contains name && s != "" then .string "****" else .string s
  | v => v

/-- A configuration as it may be shown. Text that is no JSON object is shown as it is. -/
def maskConfig (config : String) : String :=
  match Value.ofText? config with
  | some (.object members) =>
    (Value.object (members.map fun m => (m.1, maskMember m.1 m.2))).text
  | _ => config

/-- The channel's configuration as it may be shown (`masked_config`). -/
def maskedConfig (c : Channel) : String :=
  maskConfig c.config

end Channel

end NetWatch
