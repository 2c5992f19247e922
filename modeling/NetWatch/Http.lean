/-
NetWatch.Http — requests over the web and what comes back, as the client of
`post_json` and `HttpProbe` makes and sees them.

A request carries headers by lower-case names; setting a header replaces the
one of the same name. Names are the tokens of HTTP, values hold no control
characters. Nothing is said here of how a request travels: it is answered with
a status, or it gets no answer.
-/
import NetWatch.Address.Url

namespace NetWatch.Http

/-! ## Headers -/

/-- Characters of header names. -/
def isTokenChar (c : Char) : Bool :=
  c.isAlphanum || ['!', '#', '$', '%', '&', Char.ofNat 39, '*', '+', '-', '.', '^', '_',
    Char.ofNat 96, '|', '~'].contains c

/-- The most characters that a header name may have. -/
def maximalNameLength : Nat := 65535

/-- The lower-case form of a header name, if it is one (`HeaderName::from_bytes`). -/
def headerName? (s : String) : Option String :=
  let cs := s.toList
  if cs ≠ [] ∧ cs.length ≤ maximalNameLength ∧ cs.all isTokenChar then
    some (String.ofList (cs.map Char.toLower))
  else none

/-- Whether a text may be the value of a header, with no control characters but the tab
(`HeaderValue::from_str`). -/
def isHeaderValue (s : String) : Bool :=
  s.toList.all fun c => (32 ≤ c.toNat && c.toNat ≠ 127) || c == '\t'

/-- Headers in the order in which they were first set. -/
abbrev Headers := List (String × String)

/-- Sets a header, in place of one of the same name (`HeaderMap::insert`). -/
def setHeader (name value : String) : Headers → Headers
  | [] => [(name, value)]
  | (n, v) :: rest =>
    if name = n then (name, value) :: rest else (n, v) :: setHeader name value rest

/-! ## Requests -/

/-- A method that requests are made with. -/
inductive Method where
  | get
  | post
  deriving DecidableEq, Repr

def Method.name : Method → String
  | .get => "GET"
  | .post => "POST"

/-- A request as it leaves. -/
structure Request where
  method : Method
  /-- In its normal form, without the fragment. -/
  url : String
  headers : Headers
  body : String
  deriving DecidableEq, Repr

/-- What comes of a request. -/
inductive Reply where
  /-- Nobody was there to take it. -/
  | unreachable
  /-- It was taken, but the connection ended without an answer. -/
  | dropped
  | status (code : Nat)
  deriving DecidableEq, Repr

/-- Whether a status means success. -/
def isSuccess (code : Nat) : Bool :=
  200 ≤ code && code ≤ 299

/-- The address that a request for a URL goes to, if the URL is one of the web. -/
def address? (url : String) : Option String :=
  match Url.parse url with
  | .ok u =>
    if u.scheme = "http".toList ∨ u.scheme = "https".toList then
      some (Url.format { u with fragment := none })
    else none
  | .error _ => none

end NetWatch.Http
