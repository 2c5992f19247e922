/-
NetWatch.Validation — what checks and windows must satisfy to be kept
(`validate_target`, `validate_window`).

A target has to suit its probe protocol: an address or a plausible host name
for `icmp`, host and port for `tcp`, a web URL with a host for `http`. A window
needs a name, a recurrence that is known, an end after its start and a device.
-/
import NetWatch.Address.Url
import NetWatch.Text.Alphanumeric
import NetWatch.Text.Blank
import NetWatch.Window

namespace NetWatch

open Text

/-- The protocol that a check is probed with (`ProbeKind`). -/
inductive ProbeKind where
  | icmp
  | tcp
  | http
  deriving DecidableEq, Repr

namespace ProbeKind

def name : ProbeKind → String
  | .icmp => "icmp"
  | .tcp => "tcp"
  | .http => "http"

def tags : List (String × ProbeKind) :=
  [("icmp", .icmp), ("tcp", .tcp), ("http", .http)]

/-- The protocol of a tag (`ProbeKind::parse`). -/
def named? (tag : String) : Option ProbeKind :=
  (tags.find? (·.1 == tag)).map (·.2)

end ProbeKind

/-! ## What can be wrong -/

inductive TargetFault where
  | blankInHostname
  | hyphenAtEdge
  | noHostname
  | noPort
  | missingHost
  | portZero
  | badPort
  | badUrl (e : UrlError)
  | noScheme
  | unsupportedScheme (scheme : String)
  | urlWithoutHost
  deriving DecidableEq, Repr

def TargetFault.reason : TargetFault → String
  | .blankInHostname => "hostname cannot contain spaces"
  | .hyphenAtEdge => "hostname cannot start or end with hyphen"
  | .noHostname => "use an IP address or hostname"
  | .noPort => "expected host:port"
  | .missingHost => "missing host"
  | .portZero => "port must be between 1 and 65535"
  | .badPort => "invalid port number"
  | .badUrl e => "invalid URL: " ++ e.message
  | .noScheme => "URL must include scheme (http:// or https://)"
  | .unsupportedScheme scheme => "unsupported scheme '" ++ scheme ++ "'"
  | .urlWithoutHost => "URL must have a host"

inductive WindowFault where
  | unnamed
  | endsBeforeStart
  | noDevices
  deriving DecidableEq, Repr

def WindowFault.reason : WindowFault → String
  | .unnamed => "name is required"
  | .endsBeforeStart => "end_time must be after start_time"
  | .noDevices => "at least one device_id is required"

/-- Why a check or a window is refused (`ValidationError`). -/
inductive ValidationError where
  | emptyTarget
  | invalidTarget (checkType target : String) (fault : TargetFault)
  | unknownCheckType (checkType : String)
  | invalidRecurrence (tag : String)
  | invalidWindow (fault : WindowFault)
  deriving DecidableEq, Repr

def ValidationError.message : ValidationError → String
  | .emptyTarget => "target cannot be empty"
  | .invalidTarget checkType target fault =>
    "invalid " ++ checkType ++ " target '" ++ target ++ "': " ++ fault.reason
  | .unknownCheckType checkType => "unsupported check type: " ++ checkType
  | .invalidRecurrence tag => "invalid recurrence: " ++ tag
  | .invalidWindow fault => "invalid maintenance window: " ++ fault.reason

/-! ## Targets -/

namespace Target

/-- Whether a character may stand in a host name. -/
def isHostChar (c : Char) : Bool :=
  isAlphanumeric c || c == '.' || c == '-'

/-- What keeps a text from being a target of `icmp` (`validate_icmp_target`). -/
def icmpFault? (target : String) : Option TargetFault :=
  let cs := target.toList
  if Ip.isAddress target then none
  else if cs.any isBlank then some .blankInHostname
  else if cs.head? = some '-' ∨ cs.getLast? = some '-' then some .hyphenAtEdge
  else if cs.all isHostChar then none
  else some .noHostname

/-- The text before and after the last colon. -/
def splitAtLastColon (cs : List Char) : Option (List Char × List Char) :=
  let port := (cs.reverse.takeWhile (· ≠ ':')).reverse
  if port.length < cs.length then some (cs.take (cs.length - port.length - 1), port) else none

/-- The number of a port from 0 to 65535; a plus sign may stand before it. -/
def portNumber? (cs : List Char) : Option Nat :=
  let ds := match cs with
    | '+' :: rest => rest
    | cs => cs
  (decimal? ds).bind fun n => if n ≤ 65535 then some n else none

/-- The host without opening brackets before it and closing ones behind it. -/
def unbracketed (cs : List Char) : List Char :=
  ((cs.dropWhile (· == '[')).reverse.dropWhile (· == ']')).reverse

/-- What keeps a text from being a target of `tcp` (`validate_tcp_target`). -/
def tcpFault? (target : String) : Option TargetFault :=
  match splitAtLastColon target.toList with
  | none => some .noPort
  | some (host, port) =>
    if unbracketed host = [] then some .missingHost
    else
      match portNumber? port with
      | none => some .badPort
      | some 0 => some .portZero
      | some _ => none

/-- Whether the text `://` stands anywhere in it. -/
def mentionsScheme : List Char → Bool
  | [] => false
  | c :: rest => "://".toList.isPrefixOf (c :: rest) || mentionsScheme rest

/-- What keeps a text from being a target of `http` (`validate_http_target`). -/
def httpFault? (target : String) : Option TargetFault :=
  match Url.parse target with
  | .error e => some (if mentionsScheme target.toList then .badUrl e else .noScheme)
  | .ok url =>
    let scheme := String.ofList url.scheme
    if scheme = "http" ∨ scheme = "https" then
      if url.host.isNone then some .urlWithoutHost else none
    else some (.unsupportedScheme scheme)

/-- What keeps a text from being a target of a protocol. -/
def fault? (kind : ProbeKind) (target : String) : Option TargetFault :=
  match kind with
  | .icmp => icmpFault? target
  | .tcp => tcpFault? target
  | .http => httpFault? target

/-- Refuses a target that does not suit the protocol of its check (`validate_target`). -/
def validate (checkType target : String) : Except ValidationError Unit :=
  if isBlankText target then .error .emptyTarget
  else
    match ProbeKind.named? checkType with
    | none => .error (.unknownCheckType checkType)
    | some kind =>
      match fault? kind target with
      | none => .ok ()
      | some fault => .error (.invalidTarget checkType target fault)

end Target

/-! ## Windows -/

/-- Refuses a window that could never be put to use (`validate_window`). -/
def Window.validate (w : Window) : Except ValidationError Unit :=
  if isBlankText w.name then .error (.invalidWindow .unnamed)
  else if (Recurrence.named? w.recurrence).isNone then .error (.invalidRecurrence w.recurrence)
  else if w.endTime ≤ w.startTime then .error (.invalidWindow .endsBeforeStart)
  else if w.deviceIds = [] then .error (.invalidWindow .noDevices)
  else .ok ()

end NetWatch
