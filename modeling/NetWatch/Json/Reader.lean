/-
NetWatch.Json.Reader — reading values of given shapes from trees, as
`serde_json::from_str` does.

A reader goes through a tree in the order of its text and stops at the first
thing that does not suit it: a mistake in the text itself, or a value of
another shape than the one due. A record is an object with named fields, or an
array that holds the fields in their order; fields of other names are skipped.
-/
import NetWatch.Json.Tree
import NetWatch.Text.Quoted
import NetWatch.Time.Rfc3339

namespace NetWatch.Json

/-! ## What can go wrong -/

/-- The kind of value that stood where another was due. -/
inductive Found where
  | bool (b : Bool)
  | integer (i : Int)
  | float (x : Float)
  | string (s : String)
  | null
  | sequence
  | map
  deriving Repr

/-- A value of the wrong shape. -/
inductive Misfit where
  | invalidType (found : Found) (expected : String)
  | invalidValue (found : Found) (expected : String)
  | invalidLength (length : Nat) (expected : String)
  | unknownVariant (name : String) (known : List String)
  | missingField (name : String)
  | duplicateField (name : String)
  /-- A string that is not what its field holds, such as a time that is none. -/
  | unfit
  deriving Repr

inductive ReadError where
  | malformed
  | misfit (m : Misfit)
  deriving Repr

def Found.describe : Found → String
  | .bool b => "boolean `" ++ (if b then "true" else "false") ++ "`"
  | .integer i => "integer `" ++ String.ofList (Number.int i).chars ++ "`"
  | .float x => "floating point `" ++ String.ofList (Decimal.text x) ++ "`"
  | .string s => "string " ++ Text.quoted s
  | .null => "null"
  | .sequence => "sequence"
  | .map => "map"

/-- The names that could have stood there, each between backquotes. -/
def expectedNames : List String → String
  | [] => "there are no variants"
  | [a] => "expected `" ++ a ++ "`"
  | [a, b] => "expected `" ++ a ++ "` or `" ++ b ++ "`"
  | names => "expected one of " ++ ", ".intercalate (names.map fun n => "`" ++ n ++ "`")

/-- The wording of a misfit; an unfit string has none. -/
def Misfit.message? : Misfit → Option String
  | .invalidType found expected =>
    some ("invalid type: " ++ found.describe ++ ", expected " ++ expected)
  | .invalidValue found expected =>
    some ("invalid value: " ++ found.describe ++ ", expected " ++ expected)
  | .invalidLength n expected => some ("invalid length " ++ toString n ++ ", expected " ++ expected)
  | .unknownVariant name known => some ("unknown variant `" ++ name ++ "`, " ++ expectedNames known)
  | .missingField name => some ("missing field `" ++ name ++ "`")
  | .duplicateField name => some ("duplicate field `" ++ name ++ "`")
  | .unfit => none

/-- The wording inside longer messages. -/
def ReadError.message : ReadError → String
  | .malformed => "invalid JSON"
  | .misfit m => m.message?.getD "invalid JSON"

/-! ## Single values -/

/-- A way to read a value of some kind. -/
abbrev Reader (α : Type) := Tree → Except ReadError α

/-- The kind of value at the root of a tree, if the text names one. -/
def Tree.found? : Tree → Option Found
  | .atom .null => some .null
  | .atom (.bool b) => some (.bool b)
  | .atom (.number (.int i)) => some (.integer i)
  | .atom (.number (.float x)) => some (.float x)
  | .atom (.string s) => some (.string s)
  | .atom .hugeNumber => none
  | .atom .loneSurrogate => none
  | .array _ _ => some .sequence
  | .object _ _ => some .map
  | .broken => none

/-- The error where a tree holds another kind of value than the one due. -/
def mismatch (t : Tree) (expected : String) : ReadError :=
  match t.found? with
  | some f => .misfit (.invalidType f expected)
  | none => .malformed

def readText : Reader String
  | .atom (.string s) => .ok s
  | t => .error (mismatch t "a string")

/-- Reads `true` or `false`. -/
def readBool : Reader Bool
  | .atom (.bool b) => .ok b
  | t => .error (mismatch t "a boolean")

def readInteger (low high : Int) (expected : String) : Reader Int
  | .atom (.number (.int i)) =>
    if low ≤ i ∧ i ≤ high then .ok i
    else .error (.misfit (.invalidValue (.integer i) expected))
  | t => .error (mismatch t expected)

def readWord64 : Reader UInt64 := fun t =>
  (readInteger 0 18446744073709551615 "u64" t).map fun i => UInt64.ofNat i.toNat

def readSize : Reader UInt64 := fun t =>
  (readInteger 0 18446744073709551615 "usize" t).map fun i => UInt64.ofNat i.toNat

def readWord32 : Reader UInt32 := fun t =>
  (readInteger 0 4294967295 "u32" t).map fun i => UInt32.ofNat i.toNat

def readWord16 : Reader UInt16 := fun t =>
  (readInteger 0 65535 "u16" t).map fun i => UInt16.ofNat i.toNat

def readInt64 : Reader Int :=
  readInteger (-9223372036854775808) 9223372036854775807 "i64"

def readFloat : Reader Float
  | .atom (.number n) => .ok n.toFloat
  | t => .error (mismatch t "f64")

def readTimestamp : Reader Timestamp
  | .atom (.string s) =>
    match Rfc3339.parse? s with
    | some t => .ok t
    | none => .error (.misfit .unfit)
  | t => .error (mismatch t "an RFC 3339 formatted date and time string")

def readOptional {α : Type} (r : Reader α) : Reader (Option α)
  | .atom .null => .ok none
  | t => (r t).map some

/-! ## Lists, maps and tags -/

def readItems {α : Type} (r : Reader α) (finish : Finish) : List Tree → Except ReadError (List α)
  | [] =>
    match finish with
    | .closed => .ok []
    | .cut _ => .error .malformed
  | t :: rest => do
    let a ← r t
    let as ← readItems r finish rest
    return a :: as

def readList {α : Type} (r : Reader α) : Reader (List α)
  | .array items finish => readItems r finish items
  | t => .error (mismatch t "a sequence")

/-- An entry of a map, in place of an older one of the same key. -/
def putEntry {α : Type} (k : String) (a : α) : List (String × α) → List (String × α)
  | [] => [(k, a)]
  | (k', a') :: rest => if k = k' then (k, a) :: rest else (k', a') :: putEntry k a rest

def readEntries {α : Type} (r : Reader α) (finish : Finish) (done : List (String × α)) :
    List (Atom × Tree) → Except ReadError (List (String × α))
  | [] =>
    match finish with
    | .closed => .ok done
    | .cut _ => .error .malformed
  | (.string k, t) :: rest => do
    let a ← r t
    readEntries r finish (putEntry k a done) rest
  | _ :: _ => .error .malformed

/-- Reads an object as a map from its keys; of a key that is given twice the last value counts. -/
def readMap {α : Type} (r : Reader α) : Reader (List (String × α))
  | .object members finish => readEntries r finish [] members
  | t => .error (mismatch t "a map")

/-- Looks a tag up among those that are known. -/
def tagNamed {α : Type} (known : List (String × α)) (name : String) : Except ReadError α :=
  match known.find? (·.1 == name) with
  | some (_, a) => .ok a
  | none => .error (.misfit (.unknownVariant name (known.map (·.1))))

/-- The end of an object that gives a tag: `null` as its value and nothing else. -/
def tagObjectEnd {α : Type} (a : α) (value : Tree) (rest : List (Atom × Tree)) (finish : Finish) :
    Except ReadError α :=
  match value with
  | .atom .null =>
    match rest, finish with
    | [], .closed => .ok a
    | _, _ => .error .malformed
  | t => .error (mismatch t "unit")

/-- Reads one of several tags: as a string, or as an object with the tag as its
only key and `null` as the value. -/
def readTag {α : Type} (known : List (String × α)) : Reader α
  | .atom (.string s) => tagNamed known s
  | .object ((.string k, .broken) :: _) _ => do
    let _ ← tagNamed known k
    .error .malformed
  | .object ((.string k, v) :: rest) finish => do
    let a ← tagNamed known k
    tagObjectEnd a v rest finish
  | .object [] (.cut (some .openArray)) =>
    .error (.misfit (.invalidType .sequence "variant identifier"))
  | .object [] (.cut (some .openObject)) =>
    .error (.misfit (.invalidType .map "variant identifier"))
  | .object [] (.cut (some (.atom a))) => .error (mismatch (.atom a) "variant identifier")
  | _ => .error .malformed

/-! ## Records -/

/-- What holds for a field that is not there. -/
inductive Presence where
  | required
  /-- It reads as `null`; in an array it may not be left out. -/
  | nullable
  /-- It has a default, also in an array. -/
  | defaulted
  deriving DecidableEq

/-- A field of a record: its name, whether a tree suits it, and what holds without it. -/
structure Field where
  name : String
  check : Tree → Except ReadError Unit
  presence : Presence

def Field.of {α : Type} (name : String) (r : Reader α) (presence : Presence) : Field :=
  ⟨name, fun t => (r t).map fun _ => (), presence⟩

/-- What is made of items behind the last field of an array. -/
inductive Surplus where
  /-- The text is malformed. -/
  | malformed
  /-- The array has the wrong length. -/
  | misfit
  | ignored
  deriving DecidableEq

/-- A record: its name and its fields in order. -/
structure Shape where
  name : String
  fields : List Field

/-- How a record is described where another value stands. -/
def Shape.expected (s : Shape) : String :=
  "struct " ++ s.name

/-- How a record is described where an array is too short. -/
def Shape.expectedLength (s : Shape) : String :=
  "struct " ++ s.name ++ " with " ++ toString s.fields.length ++
    (if s.fields.length = 1 then " element" else " elements")

/-- The fields that were found, each with its tree. -/
abbrev Members := List (String × Tree)

def closedOr (finish : Finish) (m : Members) : Except ReadError Members :=
  match finish with
  | .closed => .ok m
  | .cut _ => .error .malformed

/-- Goes through the members of an object, checking those that are fields. -/
def Shape.named (s : Shape) (finish : Finish) (got : Members) :
    List (Atom × Tree) → Except ReadError Members
  | [] => closedOr finish got
  | (.string k, t) :: rest =>
    match s.fields.find? (·.name == k) with
    | none => if t.isWhole then s.named finish got rest else .error .malformed
    | some f =>
      if got.any (·.1 == k) then .error (.misfit (.duplicateField k))
      else
        match f.check t with
        | .ok _ => s.named finish (got ++ [(k, t)]) rest
        | .error e => .error e
  | _ :: _ => .error .malformed

/-- The first field that may not be left out and is. -/
def Shape.missing? (s : Shape) (got : Members) : Option String :=
  (s.fields.find? fun f => f.presence = .required && !got.any (·.1 == f.name)).map (·.name)

/-- Goes through the items of an array, field by field. -/
def Shape.positional (s : Shape) (surplus : Surplus) (length : Nat) (finish : Finish) :
    List Field → List Tree → Except ReadError Members
  | [], [] => closedOr finish []
  | [], _ :: _ =>
    match surplus with
    | .malformed => .error .malformed
    | .misfit => .error (.misfit (.invalidLength length "fewer elements in array"))
    | .ignored => .ok []
  | f :: fs, t :: ts =>
    match f.check t with
    | .ok _ => (s.positional surplus length finish fs ts).map ((f.name, t) :: ·)
    | .error e => .error e
  | f :: fs, [] =>
    match finish with
    | .cut _ => .error .malformed
    | .closed =>
      if f.presence = .defaulted then s.positional surplus length finish fs []
      else .error (.misfit (.invalidLength (s.fields.length - fs.length - 1) s.expectedLength))

/-- Finds the fields of a record. -/
def Shape.read (s : Shape) (surplus : Surplus) : Reader Members
  | .object members finish =>
    match s.named finish [] members with
    | .error e => .error e
    | .ok got =>
      match s.missing? got with
      | some name => .error (.misfit (.missingField name))
      | none => .ok got
  | .array items finish => s.positional surplus items.length finish s.fields items
  | t => .error (mismatch t s.expected)

namespace Members

def tree? (m : Members) (name : String) : Option Tree :=
  (List.find? (fun f => f.1 == name) m).map fun f => f.2

def get {α : Type} (m : Members) (r : Reader α) (name : String) : Except ReadError α :=
  match tree? m name with
  | some t => r t
  | none => .error (.misfit (.missingField name))

/-- The value of a field that `null` or its absence leaves unset. -/
def getOptional {α : Type} (m : Members) (r : Reader α) (name : String) :
    Except ReadError (Option α) :=
  match tree? m name with
  | some t => readOptional r t
  | none => .ok none

def getD {α : Type} (m : Members) (r : Reader α) (name : String) (default : α) :
    Except ReadError α :=
  match tree? m name with
  | some t => r t
  | none => .ok default

end Members

/-! ## Texts -/

/-- Reads a value from a text that holds nothing else. -/
def readText? {α : Type} (r : Reader α) (s : String) : Except ReadError α :=
  let d := Document.ofText s
  match r d.root with
  | .error e => .error e
  | .ok a => if d.complete then .ok a else .error .malformed

end NetWatch.Json
