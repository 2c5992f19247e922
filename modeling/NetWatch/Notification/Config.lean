/-
NetWatch.Notification.Config — how the notifiers are configured.

Both kinds of notifier post to a URL and may sign what they post. A webhook may
set headers of its own: `WebhookConfig.headers` is a `HashMap`, so they come in no
order that could be told from the configuration. `post_json` goes through them in
some order, which is a parameter here (`HeaderOrder`).
-/
import NetWatch.Channel

namespace NetWatch

open Json

/-- How a webhook is configured (`WebhookConfig`). -/
structure WebhookConfig where
  url : String
  secret : Option String
  /-- The entries of the map of its own headers, by their names as given; in which order they are
  gone through is not said here. -/
  headers : List (String × String)
  deriving DecidableEq, Repr

namespace WebhookConfig

def shape : Shape :=
  ⟨"WebhookConfig", [.of "url" readText .required,
    .of "secret" (readOptional readText) .defaulted,
    .of "headers" (readMap readText) .defaulted]⟩

def read : Reader WebhookConfig := fun t => do
  let m ← shape.read .malformed t
  return ⟨← m.get readText "url", ← m.getOptional readText "secret",
    ← m.getD (readMap readText) "headers" []⟩

def toJson (c : WebhookConfig) : Value :=
  .object ([("url", .string c.url)] ++ optionalMember "secret" (c.secret.map .string) ++
    (if c.headers = [] then []
      else [("headers", .object (c.headers.map fun h => (h.1, .string h.2)))]))

end WebhookConfig

/-- An order in which the entries of a map of headers are gone through: nothing is lost or added. -/
structure HeaderOrder where
  arrange : List (String × String) → List (String × String)
  perm : ∀ headers, (arrange headers).Perm headers

namespace HeaderOrder

def asWritten : HeaderOrder :=
  ⟨id, fun _ => .refl _⟩

end HeaderOrder

/-- The orders for the maps of all channels. Each map that is read from a configuration has one of
its own. -/
abbrev Enumeration := Channel → HeaderOrder

def Enumeration.asWritten : Enumeration :=
  fun _ => .asWritten

/-- How an Alertmanager receiver is configured (`AlertmanagerConfig`). -/
structure AlertmanagerConfig where
  url : String
  secret : Option String
  deriving DecidableEq, Repr

namespace AlertmanagerConfig

def shape : Shape :=
  ⟨"AlertmanagerConfig", [.of "url" readText .required,
    .of "secret" (readOptional readText) .defaulted]⟩

def read : Reader AlertmanagerConfig := fun t => do
  let m ← shape.read .malformed t
  return ⟨← m.get readText "url", ← m.getOptional readText "secret"⟩

def toJson (c : AlertmanagerConfig) : Value :=
  .object ([("url", .string c.url)] ++ optionalMember "secret" (c.secret.map .string))

end AlertmanagerConfig

end NetWatch
