/-
NetWatch.Toml.Document — reading TOML documents (`toml::from_str`).

A document is a sequence of statements, each ending with its line: keys with
their values, and headers of tables and of tables in a row. It reads as one
table; a document with a mistake anywhere reads as nothing.
-/
import NetWatch.Toml.Scalar
import NetWatch.Toml.Table

namespace NetWatch.Toml

open Json

/-! ## Keys -/

/-- Characters of keys that need no quotes. -/
def isKeyChar (c : Char) : Bool :=
  c.isAlphanum || c == '_' || c == '-'

/-- A key at the front of the text: bare, or a string on one line. -/
def key (cs : List Char) : Option (String × List Char) :=
  match cs with
  | '"' :: rest => (basicRest rest).map fun r => (String.ofList r.1, r.2)
  | '\x27' :: rest => (literalRest rest).map fun r => (String.ofList r.1, r.2)
  | cs =>
    match cs.takeWhile isKeyChar with
    | [] => none
    | ds => some (String.ofList ds, cs.dropWhile isKeyChar)

/-- Keys with dots between them, and the text behind them and behind blanks. -/
def keys (cs : List Char) : Option (List String × List Char) :=
  match key (skipSpace cs) with
  | none => none
  | some (k, rest) =>
    match skipSpace rest with
    | '.' :: rest =>
      if rest.length < cs.length then (keys rest).map fun r => (k :: r.1, r.2) else none
    | rest => some ([k], rest)
termination_by cs.length

/-- How many keys may stand in a row, and how deep values may lie in each other. -/
def maximalDepth : Nat := 79

/-- The keys before the last, the last, and the text behind them. -/
def keyPath (cs : List Char) : Option (List String × String × List Char) :=
  match keys cs with
  | none => none
  | some (ks, rest) =>
    match ks.getLast? with
    | none => none
    | some k => if ks.length ≤ maximalDepth then some (ks.dropLast, k, rest) else none

/-! ## Values -/

/-- The text behind blanks, line ends and comments. A comment goes on to the end of
its line; one with a control character in it is not passed over. -/
def skipLines (comment : Bool) : List Char → List Char
  | [] => []
  | '\n' :: rest => skipLines false rest
  | '\r' :: '\n' :: rest => skipLines false rest
  | c :: rest =>
    if comment then if isPlain c then skipLines true rest else c :: rest
    else if isSpace c then skipLines false rest
    else if c = '#' then skipLines true rest
    else c :: rest

/-- The rest of an array behind its opening bracket or behind a comma. -/
def arrayRest (item : List Char → Option (Value × List Char)) (cs : List Char) :
    Option (List Value × List Char) :=
  match skipLines false cs with
  | ']' :: rest => some ([], rest)
  | cs' =>
    match item cs' with
    | none => none
    | some (v, rest) =>
      match skipLines false rest with
      | ']' :: rest => some ([v], rest)
      | ',' :: rest =>
        if rest.length < cs.length then (arrayRest item rest).map fun r => (v :: r.1, r.2)
        else none
      | _ => none
termination_by cs.length

/-- A key with its value, and the text behind it and behind blanks. -/
def pair (item : List Char → Option (Value × List Char)) (cs : List Char) :
    Option ((List String × String × Value) × List Char) :=
  match keyPath cs with
  | some (path, k, '=' :: rest) =>
    (item (skipSpace rest)).map fun r => ((path, k, r.1), skipSpace r.2)
  | _ => none

/-- The rest of an inline table behind its opening brace or behind a comma. -/
def membersRest (item : List Char → Option (Value × List Char)) (cs : List Char) :
    Option (List (List String × String × Value) × List Char) :=
  match pair item cs with
  | none => none
  | some (p, '}' :: rest) => some ([p], rest)
  | some (p, ',' :: rest) =>
    if rest.length < cs.length then (membersRest item rest).map fun r => (p :: r.1, r.2) else none
  | some _ => none
termination_by cs.length

/-- Gives keys their values, one after the other. -/
def assignAll (es : Entries) : List (List String × String × Value) → Option Entries
  | [] => some es
  | (path, k, v) :: rest => (es.assign path k v .header).bind fun es => assignAll es rest

def inlineTable (ps : List (List String × String × Value)) : Option Value :=
  (assignAll [] ps).map fun es => .object (entryValues es)

/-- A value at the front of the text; `depth` is how deep it may go. -/
def value : Nat → List Char → Option (Value × List Char)
  | 0, cs => scalar cs
  | depth + 1, cs =>
    match cs with
    | '[' :: rest =>
      (arrayRest (fun cs => value depth cs) rest).map fun r => (.array r.1, r.2)
    | '{' :: rest =>
      match skipSpace rest with
      | '}' :: rest => some (.object [], rest)
      | rest =>
        (membersRest (fun cs => value depth cs) rest).bind fun r =>
          (inlineTable r.1).map fun v => (v, r.2)
    | cs => scalar cs

/-! ## Statements -/

/-- One line of a document, or several if its value has them. -/
inductive Statement where
  | blank
  | pair (path : List String) (key : String) (v : Value)
  | table (path : List String) (key : String)
  | nextTable (path : List String) (key : String)

/-- The text behind the end of a line, which blanks and a comment may precede. -/
def endLine (cs : List Char) : Option (List Char) :=
  let rest :=
    match skipSpace cs with
    | '#' :: rest => rest.dropWhile isPlain
    | rest => rest
  match rest with
  | [] => some []
  | rest => lineEnd? rest

/-- A header behind its opening bracket. -/
def header : List Char → Option (Statement × List Char)
  | '[' :: rest =>
    match keyPath rest with
    | some (path, k, ']' :: ']' :: rest) => some (.nextTable path k, rest)
    | _ => none
  | cs =>
    match keyPath cs with
    | some (path, k, ']' :: rest) => some (.table path k, rest)
    | _ => none

/-- A statement without the end of its line. -/
def statementBody (cs : List Char) : Option (Statement × List Char) :=
  match skipSpace cs with
  | [] => some (.blank, [])
  | '#' :: rest => some (.blank, '#' :: rest)
  | '\n' :: rest => some (.blank, '\n' :: rest)
  | '\r' :: rest => some (.blank, '\r' :: rest)
  | '[' :: rest => header rest
  | cs => (pair (value maximalDepth) cs).map fun r => (.pair r.1.1 r.1.2.1 r.1.2.2, r.2)

/-- A statement with its line, and the text behind it. -/
def statement (cs : List Char) : Option (Statement × List Char) :=
  (statementBody cs).bind fun r => (endLine r.2).map fun rest => (r.1, rest)

def statements (cs : List Char) : Option (List Statement) :=
  match cs with
  | [] => some []
  | c :: cs =>
    match statement (c :: cs) with
    | none => none
    | some (s, rest) =>
      if rest.length < cs.length + 1 then (statements rest).map (s :: ·) else none
termination_by cs.length

/-! ## Documents -/

/-- What is known of a document while it is read: its tables, and which of them the keys fill. -/
structure Reading where
  root : Entries
  current : List String

namespace Reading

/-- Takes a statement in. -/
def take (r : Reading) : Statement → Option Reading
  | .blank => some r
  | .pair path k v =>
    (Entries.alter false (fun origin es => es.assign path k v origin) r.current .header
      r.root).map fun root => ⟨root, r.current⟩
  | .table path k =>
    (Entries.alter false (Entries.openTable k) path .header r.root).map fun root =>
      ⟨root, path ++ [k]⟩
  | .nextTable path k =>
    (Entries.alter false (Entries.openNext k) path .header r.root).map fun root =>
      ⟨root, path ++ [k]⟩

/-- Takes statements in, one after the other. -/
def takeAll (r : Reading) : List Statement → Option Reading
  | [] => some r
  | s :: rest => (r.take s).bind fun r => r.takeAll rest

end Reading

/-- The text behind the mark of byte order that may stand at its front. -/
def skipMark : List Char → List Char
  | [] => []
  | c :: rest => if c.toNat = 0xFEFF then rest else c :: rest

/-- The table that a document reads as. -/
def ofText? (s : String) : Option Value :=
  (statements (skipMark s.toList)).bind fun ss =>
    ((⟨[], []⟩ : Reading).takeAll ss).map fun r => .object (entryValues r.root)

end NetWatch.Toml
