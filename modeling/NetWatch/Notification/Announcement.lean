/-
NetWatch.Notification.Announcement — telling the channels of an alert.

The `Dispatcher`. An alert event goes to every enabled channel, one after the
other (`handle_alert_event`). A channel that serves no known type, is configured
wrongly or does not take the alert keeps nothing from the rest. A single channel
can be tried out; then what goes wrong is reported (`send_test`).
-/
import NetWatch.Notification.Notifier
import NetWatch.Script

namespace NetWatch

/-- Announces an alert in one place (`Notifier::notify`). -/
def Notifier.deliver (order : HeaderOrder) (n : Notifier) (alert : Alert)
    (transition : Transition) : Script (Except NotifyError Unit) := do
  let now ← Script.now
  match n.request order alert transition now with
  | .error e => return .error e
  | .ok r =>
    let reply ← Script.request r
    return n.outcome reply

namespace Announcement

/-! ## To all channels -/

/-- Announces an alert over one channel, whatever comes of it (one turn of the loop of
`handle_alert_event`). -/
def toChannel (orders : Enumeration) (alert : Alert) (transition : Transition)
    (channel : Channel) : Script Unit :=
  match Notifier.ofChannel channel with
  | .error _ => return ()
  | .ok none => return ()
  | .ok (some n) => do
    let _ ← n.deliver (orders channel) alert transition
    return ()

/-- Announces an alert over one channel after the other. -/
def toChannels (orders : Enumeration) (alert : Alert) (transition : Transition) :
    List Channel → Script Unit
  | [] => return ()
  | c :: rest => do
    toChannel orders alert transition c
    toChannels orders alert transition rest

/-- Announces the alert of an event over all enabled channels (`handle_alert_event`); an event
without one is let pass. -/
def ofEvent (orders : Enumeration) (e : Event) : Script Unit :=
  match e.payload with
  | .alert alert => do
    match ← Script.query .enabledChannels with
    | .error _ => return ()
    | .ok channels => toChannels orders alert (.ofTopic e.topic) channels
  | .metrics _ => return ()
  | .deviceDiscovered _ => return ()

end Announcement

/-! ## To one channel on trial -/

/-- Why a trial of a channel failed. -/
inductive TrialError where
  | store (e : StoreError)
  | unknownChannel (id : String)
  /-- The type of the channel announces nothing. -/
  | silentType (channelType : String)
  /-- No notifier can be built. -/
  | unusable (e : NotifyError)
  | undelivered (channelId : String) (e : NotifyError)
  deriving Repr

namespace TrialError

/-- What was being done when the error came up, if more than the error is told. -/
def context? : TrialError → Option String
  | .undelivered id _ => some ("send test notification via " ++ id)
  | _ => none

def message : TrialError → String
  | .store e => e.message
  | .unknownChannel id => "notification channel " ++ id ++ " not found"
  | .silentType channelType => "channel type " ++ channelType ++ " cannot deliver notifications"
  | .unusable e => e.message
  | .undelivered _ e => e.message

end TrialError

namespace Announcement

/-- The alert that `send_test` makes up. -/
def trialAlert (now : Timestamp) : Alert :=
  ⟨"test-notification", "test", "test", .warning, "Test notification", now, none, none, 0, false,
    none⟩

/-- Tries a channel out (`send_test`). -/
def trial (orders : Enumeration) (channelId : String) : Script (Except TrialError Unit) := do
  match ← Script.query (.channel channelId) with
  | .error e => return .error (.store e)
  | .ok none => return .error (.unknownChannel channelId)
  | .ok (some channel) =>
    match Notifier.ofChannel channel with
    | .error e => return .error (.unusable e)
    | .ok none => return .error (.silentType (channel : Channel).channelType)
    | .ok (some n) =>
      let now ← Script.now
      match ← n.deliver (orders channel) (trialAlert now) .triggered with
      | .ok _ => return .ok ()
      | .error e => return .error (.undelivered (channel : Channel).id e)

end Announcement

end NetWatch
