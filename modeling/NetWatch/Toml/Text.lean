/-
NetWatch.Toml.Text — strings in TOML documents.

A string is written between double quotes, where a backslash introduces an
escape, or between single quotes, where every character stands for itself.
Either kind may be on one line or, with the quotes tripled, on several.

Writing takes the first of these forms that needs no escape: double quotes,
single quotes, tripled double quotes, tripled single quotes. A text that needs
escapes in all of them is written between double quotes, tripled if it has
several lines.
-/
import NetWatch.Text.Digits
import NetWatch.Text.Hex

namespace NetWatch.Toml

/-! ## Characters -/

/-- Characters that comments and strings hold as they are: all but the control
characters, and the tab. -/
def isPlain (c : Char) : Bool :=
  c == '\t' || (32 ≤ c.toNat && c.toNat ≠ 127)

/-- Blanks within a line. -/
def isSpace (c : Char) : Bool :=
  c == ' ' || c == '\t'

/-- The text behind the blanks at its front. -/
def skipSpace (cs : List Char) : List Char :=
  cs.dropWhile isSpace

/-- The text behind a line end at its front, if one stands there. -/
def lineEnd? : List Char → Option (List Char)
  | '\n' :: rest => some rest
  | '\r' :: '\n' :: rest => some rest
  | _ => none

/-! ## Escapes -/

/-- The character that a letter behind a backslash stands for. -/
def escapeLetter? (c : Char) : Option Char :=
  if c = 'b' then some (Char.ofNat 8)
  else if c = 't' then some '\t'
  else if c = 'n' then some '\n'
  else if c = 'f' then some (Char.ofNat 12)
  else if c = 'r' then some '\r'
  else if c = '"' then some '"'
  else if c = '\\' then some '\\'
  else none

def hexNumber? (start : Nat) : List Char → Option Nat
  | [] => some start
  | c :: rest =>
    match Text.Hex.digit? c with
    | some d => hexNumber? (16 * start + d) rest
    | none => none

/-- The character that hexadecimal digits name, if there is one. -/
def codePoint? (ds : List Char) : Option Char :=
  match hexNumber? 0 ds with
  | some n => if h : n.isValidChar then some (Char.ofNatAux n h) else none
  | none => none

/-! ## Reading -/

/-- A character in front of what a reader found. -/
def withChar (c : Char) (r : Option (List Char × List Char)) : Option (List Char × List Char) :=
  r.map fun x => (c :: x.1, x.2)

/-- A character that may be none, in front of what a reader found. -/
def withChar? (c : Option Char) (r : Option (List Char × List Char)) :
    Option (List Char × List Char) :=
  match c with
  | some c => withChar c r
  | none => none

/-- The rest of a string behind its opening double quote, and the text behind it. -/
def basicRest : List Char → Option (List Char × List Char)
  | [] => none
  | '"' :: rest => some ([], rest)
  | '\\' :: 'u' :: a :: b :: c :: d :: rest => withChar? (codePoint? [a, b, c, d]) (basicRest rest)
  | '\\' :: 'U' :: a :: b :: c :: d :: e :: f :: g :: h :: rest =>
    withChar? (codePoint? [a, b, c, d, e, f, g, h]) (basicRest rest)
  | '\\' :: c :: rest => withChar? (escapeLetter? c) (basicRest rest)
  | c :: rest => if isPlain c && c ≠ '\\' then withChar c (basicRest rest) else none

/-- The rest of a string behind its opening single quote, and the text behind it. -/
def literalRest : List Char → Option (List Char × List Char)
  | [] => none
  | '\x27' :: rest => some ([], rest)
  | c :: rest => if isPlain c then withChar c (literalRest rest) else none

/-- Whether nothing but blanks stands before the next line end. -/
def endsLine (cs : List Char) : Bool :=
  (lineEnd? (skipSpace cs)).isSome

/-- The rest of a string behind three double quotes, and the text behind it.
While `joining`, blanks and line ends are passed over: that is how lines are
joined at a backslash. -/
def basicLinesRest (joining : Bool) : List Char → Option (List Char × List Char)
  | [] => none
  | '"' :: '"' :: '"' :: '"' :: '"' :: rest => some (['"', '"'], rest)
  | '"' :: '"' :: '"' :: '"' :: rest => some (['"'], rest)
  | '"' :: '"' :: '"' :: rest => some ([], rest)
  | '\r' :: '\n' :: rest =>
    if joining then basicLinesRest true rest else withChar '\n' (basicLinesRest false rest)
  | '\\' :: 'u' :: a :: b :: c :: d :: rest =>
    withChar? (codePoint? [a, b, c, d]) (basicLinesRest false rest)
  | '\\' :: 'U' :: a :: b :: c :: d :: e :: f :: g :: h :: rest =>
    withChar? (codePoint? [a, b, c, d, e, f, g, h]) (basicLinesRest false rest)
  | '\\' :: rest =>
    if endsLine rest then basicLinesRest true rest
    else
      match rest with
      | [] => none
      | c :: rest => withChar? (escapeLetter? c) (basicLinesRest false rest)
  | c :: rest =>
    if joining && (isSpace c || c == '\n') then basicLinesRest true rest
    else if isPlain c || c == '\n' then withChar c (basicLinesRest false rest)
    else none

/-- The rest of a string behind three single quotes, and the text behind it. -/
def literalLinesRest : List Char → Option (List Char × List Char)
  | [] => none
  | '\x27' :: '\x27' :: '\x27' :: '\x27' :: '\x27' :: rest => some (['\x27', '\x27'], rest)
  | '\x27' :: '\x27' :: '\x27' :: '\x27' :: rest => some (['\x27'], rest)
  | '\x27' :: '\x27' :: '\x27' :: rest => some ([], rest)
  | '\r' :: '\n' :: rest => withChar '\n' (literalLinesRest rest)
  | c :: rest => if isPlain c || c == '\n' then withChar c (literalLinesRest rest) else none

/-- The text behind a line end, if one stands at its front. -/
def skipLineEnd (cs : List Char) : List Char :=
  (lineEnd? cs).getD cs

/-- A string at the front of the text, and the text behind it. -/
def readString : List Char → Option (List Char × List Char)
  | '"' :: '"' :: '"' :: rest => basicLinesRest false (skipLineEnd rest)
  | '\x27' :: '\x27' :: '\x27' :: rest => literalLinesRest (skipLineEnd rest)
  | '"' :: rest => basicRest rest
  | '\x27' :: rest => literalRest rest
  | _ => none

/-! ## Writing -/

inductive Form where
  | basic
  | literal
  | basicLines
  | literalLines
  deriving DecidableEq, Repr

/-- Whether a character has to be escaped wherever escapes are known; a line end
has not where there may be several lines. -/
def isControl (c : Char) : Bool :=
  !isPlain c && c ≠ '\n'

/-- Whether a quote stands three times in a row. -/
def hasTriple (quote : Char) : List Char → Bool
  | a :: b :: c :: rest =>
    (a == quote && b == quote && c == quote) || hasTriple quote (b :: c :: rest)
  | _ => false

def formOf (cs : List Char) : Form :=
  let plain := !cs.any isControl
  let lines := cs.contains '\n'
  if plain && !cs.contains '\\' && !cs.contains '"' && !lines then .basic
  else if plain && !cs.contains '\x27' && !lines then .literal
  else if plain && !cs.contains '\\' && !hasTriple '"' cs then .basicLines
  else if plain && !hasTriple '\x27' cs then .literalLines
  else if lines then .basicLines
  else .basic

/-- The upper-case digit for a value below sixteen. -/
def hexChar (d : Nat) : Char :=
  if d < 10 then Char.ofNat (48 + d) else Char.ofNat (55 + d)

/-- One character between double quotes. -/
def escaped (c : Char) : List Char :=
  if c = '"' then ['\\', '"']
  else if c = '\\' then ['\\', '\\']
  else if c.toNat = 8 then ['\\', 'b']
  else if c = '\t' then ['\\', 't']
  else if c = '\n' then ['\\', 'n']
  else if c.toNat = 12 then ['\\', 'f']
  else if c = '\r' then ['\\', 'r']
  else if isPlain c then [c]
  else ['\\', 'u', '0', '0', hexChar (c.toNat / 16), hexChar (c.toNat % 16)]

/-- The text between tripled double quotes; of quotes in a row every third is escaped. -/
def escapedLines (row : Nat) : List Char → List Char
  | [] => []
  | c :: rest =>
    if c = '"' then
      if row = 2 then '\\' :: '"' :: escapedLines 0 rest else '"' :: escapedLines (row + 1) rest
    else if c = '\n' then '\n' :: escapedLines 0 rest
    else escaped c ++ escapedLines 0 rest

/-- The line end behind tripled quotes, where the text has several lines. -/
def opening (cs : List Char) : List Char :=
  if cs.contains '\n' then ['\n'] else []

def writeString (cs : List Char) : List Char :=
  match formOf cs with
  | .basic => '"' :: cs.flatMap escaped ++ ['"']
  | .literal => '\x27' :: cs ++ ['\x27']
  | .basicLines => ['"', '"', '"'] ++ opening cs ++ escapedLines 0 cs ++ ['"', '"', '"']
  | .literalLines =>
    ['\x27', '\x27', '\x27'] ++ opening cs ++ cs ++ ['\x27', '\x27', '\x27']

end NetWatch.Toml
