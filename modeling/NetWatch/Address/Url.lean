/-
NetWatch.Address.Url — absolute URLs, as far as probes and notifications need them
(`Url::parse`).

A URL is read leniently, as browsers do: control characters and blanks at the
ends are dropped, tabs and line breaks are skipped, schemes are lower-cased,
and for the schemes of the web backslashes count as slashes and any number of
slashes may stand before the host. The host is an address or a domain name,
which international names become in their ASCII form.

Only the parts that a request needs are kept: scheme, host, port, path, query
and fragment. User names and passwords are read over.
-/
import NetWatch.Address.Idna
import NetWatch.Address.Ip

namespace NetWatch

inductive UrlError where
  | emptyHost
  | invalidDomain
  | invalidPort
  | invalidV4
  | invalidV6
  /-- A host of a scheme unknown to the web holds a character that no host may hold. -/
  | invalidHostCharacter
  /-- There is no scheme. -/
  | relative
  deriving DecidableEq, Repr

def UrlError.message : UrlError → String
  | .emptyHost => "empty host"
  | .invalidDomain => "invalid international domain name"
  | .invalidPort => "invalid port number"
  | .invalidV4 => "invalid IPv4 address"
  | .invalidV6 => "invalid IPv6 address"
  | .invalidHostCharacter => "invalid domain character"
  | .relative => "relative URL without a base"

inductive Host where
  | v4 (address : Nat)
  | v6 (groups : List Nat)
  | domain (name : List Char)
  deriving DecidableEq, Repr

/-- A URL with a host. -/
structure Url where
  /-- In lower case. -/
  scheme : List Char
  host : Option Host
  /-- Unless it is the usual one of the scheme. -/
  port : Option Nat
  /-- With what cannot stand in it percent-encoded. -/
  path : List Char
  query : Option (List Char)
  fragment : Option (List Char)
  deriving DecidableEq, Repr

namespace Url

open Text

/-! ## Characters -/

/-- Characters that are dropped at the ends of a URL. -/
def isMargin (c : Char) : Bool :=
  c.toNat ≤ 32

/-- Characters that are skipped wherever they stand. -/
def isSkipped (c : Char) : Bool :=
  c == '\t' || c == '\n' || c == '\r'

/-- The text without what is dropped and skipped. -/
def cleaned (s : String) : List Char :=
  (((s.toList.dropWhile isMargin).reverse.dropWhile isMargin).reverse).filter (!isSkipped ·)

/-- A byte as `%` and two upper-case hexadecimal digits. -/
def percentByte (b : UInt8) : List Char :=
  ['%', (Hex.digitChar (b.toNat / 16)).toUpper, (Hex.digitChar (b.toNat % 16)).toUpper]

/-- Percent-encodes the bytes of every character of a class, and all that are not ASCII. -/
def percentEncode (escaped : Char → Bool) (cs : List Char) : List Char :=
  cs.flatMap fun c =>
    if c.toNat < 32 || 126 < c.toNat || escaped c then
      (String.singleton c).toUTF8.toList.flatMap percentByte
    else [c]

def escapedInFragment (c : Char) : Bool :=
  [' ', '"', '<', '>', Char.ofNat 96].contains c

def escapedInPath (c : Char) : Bool :=
  escapedInFragment c || ['#', '?', '{', '}'].contains c

def escapedInQuery (c : Char) : Bool :=
  [' ', '"', '#', '<', '>', Char.ofNat 39].contains c

/-! ## Schemes -/

/-- The schemes of the web that have hosts, with their usual ports. -/
def webSchemes : List (String × Nat) :=
  [("http", 80), ("https", 443), ("ws", 80), ("wss", 443), ("ftp", 21)]

def usualPort (scheme : List Char) : Option Nat :=
  (webSchemes.find? fun s => s.1.toList == scheme).map (·.2)

/-- Whether the scheme is one of the web that have hosts. -/
def isWeb (scheme : List Char) : Bool :=
  (usualPort scheme).isSome

/-- Characters of a scheme after its first letter. -/
def isSchemeChar (c : Char) : Bool :=
  c.isAlphanum || c == '+' || c == '-' || c == '.'

/-- The scheme at the front, in lower case, and what follows its colon. -/
def splitScheme (cs : List Char) : Option (List Char × List Char) :=
  match cs with
  | c :: _ =>
    if c.isAlpha then
      match cs.dropWhile isSchemeChar with
      | ':' :: rest => some ((cs.takeWhile isSchemeChar).map Char.toLower, rest)
      | _ => none
    else none
  | [] => none

/-! ## Hosts -/

/-- The bytes of a text, each `%` with two hexadecimal digits replaced by the byte they write. -/
def percentDecode : List UInt8 → List UInt8
  | 37 :: h :: l :: rest =>
    match Hex.digit? (Char.ofNat h.toNat), Hex.digit? (Char.ofNat l.toNat) with
    | some h, some l => UInt8.ofNat (16 * h + l) :: percentDecode rest
    | _, _ => 37 :: percentDecode (h :: l :: rest)
  | b :: rest => b :: percentDecode rest
  | [] => []

/-- The text between the brackets of an address of version 6. -/
def bracketed? (cs : List Char) : Option (List Char) :=
  if cs.getLast? = some ']' then some cs.dropLast else none

/-- The host that a name without brackets gives. -/
def namedHost (cs : List Char) : Except UrlError Host :=
  let bytes := percentDecode (String.ofList cs).toUTF8.toList
  match String.fromUTF8? (ByteArray.mk bytes.toArray) with
  | none => .error .invalidDomain
  | some name =>
    match Idna.toAscii name.toList with
    | none => .error .invalidDomain
    | some [] => .error .emptyHost
    | some domain =>
      if Ip.endsInNumber domain then
        match Ip.lenientV4? domain with
        | some n => .ok (.v4 n)
        | none => .error .invalidV4
      else .ok (.domain domain)

def webHost (cs : List Char) : Except UrlError Host :=
  match cs with
  | '[' :: rest =>
    match (bracketed? rest).bind Ip.v6? with
    | some gs => .ok (.v6 gs)
    | none => .error .invalidV6
  | cs => namedHost cs

/-- Characters that no host may hold. -/
def isForbidden (c : Char) : Bool :=
  [Char.ofNat 0, '\t', '\n', '\r', ' ', '#', '/', ':', '<', '>', '?', '@', '[', '\\', ']', '^',
    '|'].contains c

def plainHost (cs : List Char) : Except UrlError Host :=
  match cs with
  | '[' :: _ => webHost cs
  | cs =>
    if cs.any isForbidden then .error .invalidHostCharacter
    else .ok (.domain (percentEncode (fun _ => false) cs))

/-- The host at the front, which ends at a colon outside of brackets or where
the path, the query or the fragment begins. -/
def spanHost (web inBrackets : Bool) : List Char → List Char × List Char
  | [] => ([], [])
  | c :: rest =>
    if (c == ':' && !inBrackets) || (c == '\\' && web) || c == '/' || c == '?' || c == '#' then
      ([], c :: rest)
    else
      let r := spanHost web (if c == '[' then true else if c == ']' then false else inBrackets) rest
      (c :: r.1, r.2)

/-- Whether the host ends before this character. -/
def endsAuthority (web : Bool) (c : Char) : Bool :=
  c == '/' || c == '?' || c == '#' || (web && c == '\\')

/-- What follows the last `@` before the path, query or fragment. -/
def afterUserInfo (web : Bool) (cs : List Char) : Option (List Char) :=
  let authority := cs.takeWhile (!endsAuthority web ·)
  let name := (authority.reverse.takeWhile (· ≠ '@')).reverse
  if name.length < authority.length then some (cs.drop (authority.length - name.length)) else none

/-- What stands before the last `@`. -/
def userInfo (web : Bool) (cs : List Char) : List Char :=
  match afterUserInfo web cs with
  | some rest => cs.take (cs.length - rest.length - 1)
  | none => []

/-- Reads over a user name and password. -/
def skipUserInfo (web : Bool) (cs : List Char) : Except UrlError (List Char) :=
  match afterUserInfo web cs with
  | none => .ok cs
  | some rest =>
    match userInfo web cs, rest with
    | [], c :: _ => if endsAuthority web c then .error .emptyHost else .ok rest
    | _, _ => .ok rest

/-- The port after its colon. -/
def portAt (scheme cs : List Char) : Except UrlError (Option Nat × List Char) :=
  let (ds, rest) := spanDigits cs
  let n := (decimal? ds).getD 0
  let ends := match rest with
    | [] => true
    | c :: _ => endsAuthority true c
  if ends && n ≤ 65535 then
    .ok (if ds = [] ∨ usualPort scheme = some n then none else some n, rest)
  else .error .invalidPort

/-- The host and the port at the front. -/
def authority (scheme cs : List Char) :
    Except UrlError ((Option Host × Option Nat) × List Char) := do
  let web := isWeb scheme
  let afterUser ← skipUserInfo web cs
  let (name, rest) := spanHost web false afterUser
  if web && name = [] then .error .emptyHost
  else
    let host ← if web then webHost name else plainHost name
    match rest with
    | ':' :: portText => do
      if name = [] then .error .emptyHost
      else
        let (p, rest) ← portAt scheme portText
        .ok ((some host, p), rest)
    | _ =>
      if name = [] then
        if userInfo web cs ≠ [] ∧ userInfo web cs ≠ [':'] then .error .emptyHost
        else .ok ((none, none), rest)
      else .ok ((some host, none), rest)

/-! ## Path, query and fragment -/

/-- The parts of a path: what stands between slashes, and whether a slash ends it. -/
def pathParts (web : Bool) (cs : List Char) : List (List Char) :=
  Ip.splitOn '/' (if web then cs.map fun c => if c == '\\' then '/' else c else cs)

/-- Whether a part means the place itself, also when its point is encoded. -/
def isHere (part : List Char) : Bool :=
  [".", "%2e", "%2E"].any fun s => s.toList == part

/-- Whether a part means the place above. -/
def isAbove (part : List Char) : Bool :=
  part.length ≤ 6 && [".", "%2e"].any fun a => [".", "%2e"].any fun b =>
    (a ++ b).toList == part.map Char.toLower

/-- Walks along the parts, the newest first, dropping those that lead nowhere. -/
def walk (done : List (List Char)) : List (List Char) → List (List Char)
  | [] => done.reverse
  | [part] =>
    if isAbove part then ([] :: done.drop 1).reverse
    else if isHere part then ([] :: done).reverse
    else (part :: done).reverse
  | part :: rest =>
    if isAbove part then walk (done.drop 1) rest
    else if isHere part then walk done rest
    else walk (part :: done) rest

/-- The path of a web URL, which always starts with a slash. -/
def webPath (cs : List Char) : List Char :=
  let parts := (pathParts true cs).map (percentEncode escapedInPath)
  let parts := match parts with
    | [] :: rest => if rest = [] then [[]] else rest
    | parts => parts
  (walk [] parts).flatMap ('/' :: ·)

/-- The text up to a character, and what follows the character if it is there. -/
def cut (c : Char) (cs : List Char) : List Char × Option (List Char) :=
  match cs.dropWhile (· ≠ c) with
  | _ :: rest => (cs.takeWhile (· ≠ c), some rest)
  | [] => (cs, none)

/-! ## Reading and writing -/

/-- The name between the slashes after `file:`. -/
def fileHost (cs : List Char) : Option (List Char) :=
  match cs with
  | a :: b :: rest =>
    if endsAuthority true a && endsAuthority true b && a != '?' && a != '#' && b != '?' && b != '#'
    then
      let name := rest.takeWhile (!endsAuthority true ·)
      let isDrive := match name with
        | [d, e] => d.isAlpha && (e == ':' || e == '|')
        | _ => false
      if name = [] || isDrive then none else some name
    else none
  | _ => none

/-- A URL whose parts after the host are read from the text. -/
def withRest (scheme : List Char) (host : Option Host) (port : Option Nat) (rest : List Char) :
    Url :=
  let (rest, fragment) := cut '#' rest
  let (path, query) := cut '?' rest
  ⟨scheme, host, port, if isWeb scheme then webPath path else percentEncode (fun _ => false) path,
    query.map (percentEncode escapedInQuery), fragment.map (percentEncode escapedInFragment)⟩

def parse (s : String) : Except UrlError Url :=
  match splitScheme (cleaned s) with
  | none => .error .relative
  | some (scheme, rest) =>
    if scheme = "file".toList then
      match fileHost rest with
      | none => .ok (withRest scheme none none rest)
      | some name => (webHost name).map fun host => withRest scheme (some host) none rest
    else if isWeb scheme then
      (authority scheme (rest.dropWhile fun c => c == '/' || c == '\\')).map fun r =>
        withRest scheme r.1.1 r.1.2 r.2
    else
      match rest with
      | '/' :: '/' :: rest => (authority scheme rest).map fun r => withRest scheme r.1.1 r.1.2 r.2
      | rest => .ok (withRest scheme none none rest)

def hostChars : Host → List Char
  | .v4 n => Ip.v4Chars n
  | .v6 gs => '[' :: Ip.v6Chars gs ++ [']']
  | .domain name => name

def format (u : Url) : String :=
  let host := match u.host with
    | some h => "//".toList ++ hostChars h
    | none => []
  let port := match u.port with
    | some p => ':' :: decimal p
    | none => []
  let query := match u.query with
    | some q => '?' :: q
    | none => []
  let fragment := match u.fragment with
    | some f => '#' :: f
    | none => []
  String.ofList (u.scheme ++ ':' :: host ++ port ++ u.path ++ query ++ fragment)

end Url

end NetWatch
