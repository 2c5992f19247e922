/-
NetWatch.Probe — the built-in probes: how what the network did becomes an outcome
(`IcmpProbe`, `TcpProbe`, `HttpProbe`).

A probe never fails as such; whatever keeps it from an answer is part of the
outcome. A probe that is called off in time reports that it was; the
`icmp` probe looks for that only after its target is resolved and its socket is
open, and then reports that nothing came back.
-/
import NetWatch.Check
import NetWatch.Http

namespace NetWatch.Probe

/-! ## Echo requests -/

/-- What an echo request meets. -/
inductive Echo where
  /-- The name has no address. -/
  | unresolved (reason : String)
  /-- No socket can be had. -/
  | noSocket (reason : String)
  /-- Each request sent either came back after so many milliseconds or was lost. -/
  | replies (requests : List (Except String Float))

def requestCount (count : UInt16) : Nat :=
  max count.toNat 1

def times (requests : List (Except String Float)) : List Float :=
  requests.filterMap fun
    | .ok ms => some ms
    | .error _ => none

/-- The error of the last request that was lost. -/
def lastError? (requests : List (Except String Float)) : Option String :=
  (requests.reverse.filterMap fun
    | .ok _ => none
    | .error e => some e).head?

/-- The outcome of so many echo requests: the mean time of those that came back, and
the share of those that did not. -/
def ofReplies (requests : List (Except String Float)) : ProbeOutcome :=
  match times requests with
  | [] => .down ((lastError? requests).getD "100% packet loss")
  | ms =>
    let received := Float.ofNat ms.length
    let sent := Float.ofNat requests.length
    ⟨true, ms.foldl (· + ·) 0 / received, (sent - received) / sent, none⟩

/-- The outcome of an `icmp` probe (`IcmpProbe::check`). -/
def icmp (target : String) (count : UInt16) (cancelled : Bool) : Echo → ProbeOutcome
  | .unresolved reason => .down ("resolve " ++ target ++ ": " ++ reason)
  | .noSocket reason => .down ("open icmp socket: " ++ reason)
  | .replies requests =>
    ofReplies (if cancelled then [] else requests.take (requestCount count))

/-! ## Connections -/

/-- The error of a probe that was called off. -/
def calledOff : String := "cancelled"

/-- What an attempt to connect meets, each after so many milliseconds. -/
inductive Connection where
  | opened (ms : Float)
  | refused (ms : Float) (reason : String)
  | timedOut (ms : Float)
  /-- The probe was called off before there was an answer. -/
  | calledOff (ms : Float)

/-- The outcome of a `tcp` probe (`TcpProbe::check`). -/
def tcp : Connection → ProbeOutcome
  | .opened ms => .up ms
  | .refused ms reason => .downAfter ms ("tcp connect failed: " ++ reason)
  | .timedOut ms => .downAfter ms "tcp connect timed out"
  | .calledOff ms => .downAfter ms Probe.calledOff

/-! ## Web requests -/

/-- What a web request meets, each after so many milliseconds. -/
inductive Exchange where
  | answered (ms : Float) (status : Nat)
  | failed (ms : Float) (reason : String)
  /-- The probe was called off before there was an answer. -/
  | calledOff (ms : Float)

/-- The outcome of an `http` probe (`HttpProbe::check`); no status but those of success counts as an
answer. -/
def http : Exchange → ProbeOutcome
  | .answered ms status =>
    if Http.isSuccess status then .up ms
    else .downAfter ms ("unexpected status " ++ toString status)
  | .failed ms reason => .downAfter ms ("http request failed: " ++ reason)
  | .calledOff ms => .downAfter ms Probe.calledOff

/-- What is said of a request that got no answer. -/
def unsent (target : String) : String :=
  match Http.address? target with
  | some address => "error sending request for url (" ++ address ++ ")"
  | none => "builder error"

end NetWatch.Probe
