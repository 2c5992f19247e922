/-
NetWatch.Notification.Notifier — from a channel to the request it makes.

A channel of a known type with a usable configuration has a notifier
(`build_notifier`). A notifier turns an alert into one request (`post_json`): the
body, the default headers, the signature where there is a secret, and the headers
of the configuration in the order in which their map is gone through, which
replace defaults of the same name. A header that is none is found before
anything is sent.
-/
import NetWatch.Http
import NetWatch.Notification.Config
import NetWatch.Notification.Payload
import NetWatch.Signature
import NetWatch.Text.Blank

namespace NetWatch

/-- Why an alert could not be announced (`NotifyError`, less what cannot come up here). -/
inductive NotifyError where
  | invalidConfig (channelType reason : String)
  | invalidHeader (kind name : String)
  /-- No answer came. -/
  | transport (kind url : String)
  /-- The answer was no success. -/
  | status (kind url : String) (code : Nat)
  deriving DecidableEq, Repr

def NotifyError.message : NotifyError → String
  | .invalidConfig channelType reason => "invalid " ++ channelType ++ " config: " ++ reason
  | .invalidHeader kind name => "invalid " ++ kind ++ " header " ++ name
  | .transport kind url => kind ++ " POST " ++ url
  | .status kind url code => kind ++ " POST " ++ url ++ ": status " ++ toString code

/-- What announces alerts to one place (`Notifier`). -/
inductive Notifier where
  | webhook (config : WebhookConfig)
  | alertmanager (config : AlertmanagerConfig)
  deriving DecidableEq, Repr

namespace Notifier

/-- The type of the channels that it serves. -/
def kind : Notifier → String
  | .webhook _ => "webhook"
  | .alertmanager _ => "alertmanager"

/-- The URL that it posts to, as configured. -/
def url : Notifier → String
  | .webhook c => c.url
  | .alertmanager c => c.url

/-- What it signs with. -/
def secret : Notifier → Option String
  | .webhook c => c.secret
  | .alertmanager c => c.secret

/-- The entries of the map of headers that its configuration sets. -/
def customHeaders : Notifier → List (String × String)
  | .webhook c => c.headers
  | .alertmanager _ => []

/-- How it introduces itself. -/
def userAgent : Notifier → String
  | .webhook _ => "Pulse-Webhook/0.1"
  | .alertmanager _ => "Pulse-Alertmanager/0.1"

/-! ## Building -/

/-- The configuration of a channel, if it can be read (`parse_config`) and names a URL
(`require_url`). -/
def configOf {α : Type} (channel : Channel) (r : Json.Reader α) (url : α → String) :
    Except NotifyError α :=
  match Json.readText? r channel.config with
  | .error e => .error (.invalidConfig channel.channelType e.message)
  | .ok config =>
    if Text.isBlankText (url config) then
      .error (.invalidConfig channel.channelType "url is required")
    else .ok config

/-- The notifier of a channel (`build_notifier`); a type that none serves has none, which is no
error. -/
def ofChannel (channel : Channel) : Except NotifyError (Option Notifier) :=
  if channel.channelType = "webhook" then
    (configOf channel WebhookConfig.read WebhookConfig.url).map fun c => some (.webhook c)
  else if channel.channelType = "alertmanager" then
    (configOf channel AlertmanagerConfig.read AlertmanagerConfig.url).map fun c =>
      some (.alertmanager c)
  else .ok none

/-! ## Announcing -/

/-- The header for the signature (`SIGNATURE_HEADER`). -/
def signatureHeader : String := "x-signature"

def body (n : Notifier) (alert : Alert) (transition : Transition) (now : Timestamp) : String :=
  match n with
  | .webhook _ => (Payload.webhook alert transition now).text
  | .alertmanager _ => (Payload.alertmanager alert transition).text

/-- The headers that `post_json` sets before those of the configuration. -/
def defaultHeaders (n : Notifier) (body : String) : Http.Headers :=
  let base := [("content-type", "application/json"), ("user-agent", n.userAgent)]
  match n.secret with
  | some secret =>
    if secret = "" then base
    else
      base ++ [(signatureHeader, Signature.sign secret.toUTF8.toList body.toUTF8.toList)]
  | none => base

/-- Sets headers one after the other (the loop of `post_json`); the first that is none stops it. -/
def withHeaders (kind : String) (hs : Http.Headers) :
    List (String × String) → Except NotifyError Http.Headers
  | [] => .ok hs
  | (name, value) :: rest =>
    match Http.headerName? name with
    | none => .error (.invalidHeader kind name)
    | some lower =>
      if Http.isHeaderValue value then withHeaders kind (Http.setHeader lower value hs) rest
      else .error (.invalidHeader kind name)

/-- What `post_json` sends, or why it sends nothing. -/
def request (order : HeaderOrder) (n : Notifier) (alert : Alert) (transition : Transition)
    (now : Timestamp) : Except NotifyError Http.Request := do
  let body := n.body alert transition now
  let headers ← withHeaders n.kind (n.defaultHeaders body) (order.arrange n.customHeaders)
  match Http.address? n.url with
  | some address => return ⟨.post, address, headers, body⟩
  | none => .error (.transport n.kind n.url)

/-- What the reply to an announcement means (the end of `post_json`). -/
def outcome (n : Notifier) : Http.Reply → Except NotifyError Unit
  | .status code =>
    if Http.isSuccess code then .ok () else .error (.status n.kind n.url code)
  | .unreachable => .error (.transport n.kind n.url)
  | .dropped => .error (.transport n.kind n.url)

end Notifier

end NetWatch
