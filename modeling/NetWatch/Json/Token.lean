/-
NetWatch.Json.Token — the words of JSON text, as `serde_json` tells them apart.

The text is cut into punctuation, names, numbers and strings. Cutting stops at
the first place that begins no word; the marker `broken` stands for it. Two
kinds of word are spelled correctly and still name nothing: a number too large
for a double and a string with half a surrogate pair. They may be skipped but
not read.
-/
import NetWatch.Json.Value

namespace NetWatch.Json

/-- A single value that is spelled out in one word. -/
inductive Atom where
  | null
  | bool (b : Bool)
  | number (n : Number)
  | string (s : String)
  /-- Spelled as a number, but too large. -/
  | hugeNumber
  /-- Spelled as a string, but with a surrogate on its own. -/
  | loneSurrogate

/-- A word of JSON text. -/
inductive Token where
  | openArray
  | closeArray
  | openObject
  | closeObject
  | comma
  | colon
  | atom (a : Atom)
  /-- No word begins here. -/
  | broken

/-! ## Strings -/

/-- One character of a string as spelled. -/
inductive Spelled where
  | char (c : Char)
  /-- A UTF-16 unit given by four hexadecimal digits. -/
  | unit (n : Nat)

def hexUnit (a b c d : Char) : Option Nat := do
  let a ← Text.Hex.digit? a
  let b ← Text.Hex.digit? b
  let c ← Text.Hex.digit? c
  let d ← Text.Hex.digit? d
  return 4096 * a + 256 * b + 16 * c + d

/-- The character that a letter after a backslash means. -/
def escapeLetter (c : Char) : Option Char :=
  if c = '"' then some '"'
  else if c = '\\' then some '\\'
  else if c = '/' then some '/'
  else if c = 'b' then some (Char.ofNat 8)
  else if c = 'f' then some (Char.ofNat 12)
  else if c = 'n' then some '\n'
  else if c = 'r' then some '\r'
  else if c = 't' then some '\t'
  else none

/-- The spelled characters up to the closing quote, and what follows it. -/
def scanString : List Char → Option (List Spelled × List Char)
  | '"' :: rest => some ([], rest)
  | '\\' :: 'u' :: a :: b :: c :: d :: rest => do
    let n ← hexUnit a b c d
    let (spelled, rest) ← scanString rest
    return (.unit n :: spelled, rest)
  | '\\' :: c :: rest => do
    let c ← escapeLetter c
    let (spelled, rest) ← scanString rest
    return (.char c :: spelled, rest)
  | c :: rest =>
    if c.toNat < 32 ∨ c = '\\' then none
    else do
      let (spelled, rest) ← scanString rest
      return (.char c :: spelled, rest)
  | [] => none

/-- Whether a UTF-16 unit opens a surrogate pair. -/
def isLeading (n : Nat) : Bool := 0xD800 ≤ n && n ≤ 0xDBFF

/-- Whether a UTF-16 unit closes a surrogate pair. -/
def isTrailing (n : Nat) : Bool := 0xDC00 ≤ n && n ≤ 0xDFFF

/-- Joins surrogate pairs; nothing if half of one stands alone. -/
def spelledChars : List Spelled → Option (List Char)
  | [] => some []
  | .char c :: rest => (spelledChars rest).map (c :: ·)
  | .unit hi :: .unit lo :: rest =>
    if isLeading hi then
      if isTrailing lo then
        (spelledChars rest).map (Char.ofNat (0x10000 + 1024 * (hi - 0xD800) + (lo - 0xDC00)) :: ·)
      else none
    else if isTrailing hi then none
    else (spelledChars (.unit lo :: rest)).map (Char.ofNat hi :: ·)
  | .unit n :: rest =>
    if isLeading n || isTrailing n then none else (spelledChars rest).map (Char.ofNat n :: ·)

def stringAtom (spelled : List Spelled) : Atom :=
  match spelledChars spelled with
  | some cs => .string (String.ofList cs)
  | none => .loneSurrogate

/-! ## Words -/

/-- The four characters that may stand between words. -/
def isSpace (c : Char) : Bool :=
  c == ' ' || c == '\n' || c == '\t' || c == '\r'

def numberAtom (n : Numeral) : Atom :=
  match n.value with
  | some v => .number v
  | none => .hugeNumber

def scanNumber (cs : List Char) : Token × List Char :=
  match scanNumeral cs with
  | some (n, rest) => (.atom (numberAtom n), rest)
  | none => (.broken, cs)

/-- The word at the front of the text, which starts with no space. -/
def scanToken : List Char → Token × List Char
  | '[' :: rest => (.openArray, rest)
  | ']' :: rest => (.closeArray, rest)
  | '{' :: rest => (.openObject, rest)
  | '}' :: rest => (.closeObject, rest)
  | ',' :: rest => (.comma, rest)
  | ':' :: rest => (.colon, rest)
  | 'n' :: 'u' :: 'l' :: 'l' :: rest => (.atom .null, rest)
  | 't' :: 'r' :: 'u' :: 'e' :: rest => (.atom (.bool true), rest)
  | 'f' :: 'a' :: 'l' :: 's' :: 'e' :: rest => (.atom (.bool false), rest)
  | '"' :: rest =>
    match scanString rest with
    | some (spelled, after) => (.atom (stringAtom spelled), after)
    | none => (.broken, rest)
  | cs => scanNumber cs

/-- The words of the text. -/
def tokens (cs : List Char) : List Token :=
  match cs.dropWhile isSpace with
  | [] => []
  | c :: rest =>
    match scanToken (c :: rest) with
    | (.broken, _) => [.broken]
    | (t, after) => if after.length < cs.length then t :: tokens after else [.broken]
termination_by cs.length

end NetWatch.Json
