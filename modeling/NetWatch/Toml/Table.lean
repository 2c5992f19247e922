/-
NetWatch.Toml.Table — tables while a document is read.

A table comes to be in one of three ways: by a header of its own, because the
header of a table inside it mentions it, or because a dotted key does. How it
came to be decides what may be done to it later: a header may claim a table
that was only mentioned by headers, and keys may go on filling a table that
dotted keys made. Everything else would define a table twice.
-/
import NetWatch.Json.Value

namespace NetWatch.Toml

open Json

/-- How a table came to be. -/
inductive Origin where
  | header
  | mentioned
  | dotted
  deriving DecidableEq, Repr

/-- What a key holds while the document is read. -/
inductive Node where
  | value (v : Value)
  | table (origin : Origin) (entries : List (String × Node))
  /-- Tables in a row, each with a header of its own. -/
  | tables (items : List (List (String × Node)))

/-- The keys of a table with what they hold, in the order in which they came. -/
abbrev Entries := List (String × Node)

namespace Entries

/-- What a key holds. -/
def get? (es : Entries) (k : String) : Option Node :=
  (es.find? (·.1 == k)).map (·.2)

/-- Sets what a key holds. -/
def set (es : Entries) (k : String) (n : Node) : Entries :=
  match es with
  | [] => [(k, n)]
  | (k', n') :: rest => if k' == k then (k, n) :: rest else (k', n') :: set rest k n

/-- Changes the table at the end of a path. Tables that are missing on the way
come to be; of tables in a row the last is meant. By dotted keys no table is
entered that has a header of its own. -/
def alter (dotted : Bool) (f : Origin → Entries → Option Entries) :
    List String → Origin → Entries → Option Entries
  | [], origin, es => f origin es
  | k :: path, _, es =>
    match es.get? k with
    | none =>
      let origin := if dotted then Origin.dotted else .mentioned
      (alter dotted f path origin []).map fun sub => es.set k (.table origin sub)
    | some (.value _) => none
    | some (.table origin sub) =>
      if dotted && origin == .header then none
      else (alter dotted f path origin sub).map fun sub => es.set k (.table origin sub)
    | some (.tables items) =>
      match items.reverse with
      | [] => none
      | last :: before =>
        (alter dotted f path .header last).map fun sub =>
          es.set k (.tables (sub :: before).reverse)

/-- Gives a key its value, at the end of a path of dotted keys. A table that dotted
keys made takes only dotted keys, and every other one only plain ones. -/
def assign (path : List String) (k : String) (v : Value) (origin : Origin) (es : Entries) :
    Option Entries :=
  alter true
    (fun origin es =>
      if (origin == .dotted) == path.isEmpty then none
      else
        match es.get? k with
        | some _ => none
        | none => some (es.set k (.value v)))
    path origin es

def openTable (k : String) (_ : Origin) (es : Entries) : Option Entries :=
  match es.get? k with
  | none => some (es.set k (.table .header []))
  | some (.table .mentioned sub) => some (es.set k (.table .header sub))
  | some _ => none

/-- Opens one more table in a row. -/
def openNext (k : String) (_ : Origin) (es : Entries) : Option Entries :=
  match es.get? k with
  | none => some (es.set k (.tables [[]]))
  | some (.tables items) => some (es.set k (.tables (items ++ [[]])))
  | some _ => none

end Entries

mutual

/-- What a key holds, as a value. -/
def Node.toValue : Node → Value
  | .value v => v
  | .table _ es => .object (entryValues es)
  | .tables items => .array (rowValues items)

/-- The keys of a table with their values. -/
def entryValues : List (String × Node) → List (String × Value)
  | [] => []
  | (k, n) :: rest => (k, n.toValue) :: entryValues rest

def rowValues : List (List (String × Node)) → List Value
  | [] => []
  | es :: rest => .object (entryValues es) :: rowValues rest

end

end NetWatch.Toml
