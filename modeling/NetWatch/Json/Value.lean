/-
NetWatch.Json.Value — JSON values and how they are written
(`serde_json::Value`, `to_string`).

Text is written without blanks. Strings keep every character but the quote, the
backslash and the control characters below U+0020; of these the backspace, tab,
line feed, form feed and return have letters of their own. Members are written
in the order in which the object holds them.
-/
import NetWatch.Json.Number
import NetWatch.Text.Hex

namespace NetWatch.Json

/-- A JSON value; an object keeps its members in order. -/
inductive Value where
  | null
  | bool (b : Bool)
  | number (n : Number)
  | string (s : String)
  | array (items : List Value)
  | object (members : List (String × Value))

namespace Value

/-- A count or other number without sign. -/
def nat (n : Nat) : Value := .number (.int n)

/-- A number with sign. -/
def int (i : Int) : Value := .number (.int i)

/-- A double. -/
def float (x : Float) : Value := .number (.float x)

end Value

mutual

/-- The value with the members of all its objects in the order of their keys. -/
def Value.sorted : Value → Value
  | .array items => .array (sortedItems items)
  | .object members => .object ((sortedMembers members).mergeSort fun a b => a.1 ≤ b.1)
  | v => v

/-- Items with all their objects in the order of their keys. -/
def sortedItems : List Value → List Value
  | [] => []
  | v :: rest => v.sorted :: sortedItems rest

/-- Members, as they come, with all objects in their values in the order of their keys. -/
def sortedMembers : List (String × Value) → List (String × Value)
  | [] => []
  | (k, v) :: rest => (k, v.sorted) :: sortedMembers rest

end

/-! ## Writing -/

/-- One character inside a string. -/
def escapedChar (c : Char) : List Char :=
  if c = '"' then ['\\', '"']
  else if c = '\\' then ['\\', '\\']
  else if c.toNat = 8 then ['\\', 'b']
  else if c = '\t' then ['\\', 't']
  else if c = '\n' then ['\\', 'n']
  else if c.toNat = 12 then ['\\', 'f']
  else if c = '\r' then ['\\', 'r']
  else if c.toNat < 32 then
    ['\\', 'u', '0', '0', Text.Hex.digitChar (c.toNat / 16), Text.Hex.digitChar (c.toNat % 16)]
  else [c]

def stringChars (s : String) : List Char :=
  '"' :: s.toList.flatMap escapedChar ++ ['"']

mutual

def Value.chars : Value → List Char
  | .null => ['n', 'u', 'l', 'l']
  | .bool true => ['t', 'r', 'u', 'e']
  | .bool false => ['f', 'a', 'l', 's', 'e']
  | .number n => n.chars
  | .string s => stringChars s
  | .array [] => ['[', ']']
  | .array (v :: rest) => '[' :: v.chars ++ itemChars rest
  | .object [] => ['{', '}']
  | .object ((k, v) :: rest) => '{' :: stringChars k ++ ':' :: v.chars ++ memberChars rest

/-- The further items of an array and its end. -/
def itemChars : List Value → List Char
  | [] => [']']
  | v :: rest => ',' :: v.chars ++ itemChars rest

/-- The further members of an object and its end. -/
def memberChars : List (String × Value) → List Char
  | [] => ['}']
  | (k, v) :: rest => ',' :: stringChars k ++ ':' :: v.chars ++ memberChars rest

end

def Value.text (v : Value) : String :=
  String.ofList v.chars

end NetWatch.Json
