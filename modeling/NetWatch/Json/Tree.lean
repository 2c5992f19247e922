/-
NetWatch.Json.Tree — JSON text as far as `serde_json` can read it.

Whoever reads a text from its start sees a well-formed value up to the first
mistake and nothing behind it. A tree holds just that: where the text goes
wrong it has a `broken` leaf, and a container that was never closed properly is
`cut`. So a reader of trees meets the mistakes of the text and the values that
do not suit it in the order in which they stand.

The tree is built in one pass over the words, with the containers that are
still open on a stack.
-/
import NetWatch.Json.Token

namespace NetWatch.Json

/-- How a container ends. -/
inductive Finish where
  | closed
  /-- At a word that may not stand there, or at the end of the text. -/
  | cut (next : Option Token)

/-- What a text holds, up to its first mistake. -/
inductive Tree where
  | atom (a : Atom)
  | array (items : List Tree) (finish : Finish)
  | object (members : List (Atom × Tree)) (finish : Finish)
  | broken

/-- An open container and what it holds already, the newest first. -/
inductive Frame where
  | array (done : List Tree)
  /-- An object whose next value belongs to `key`. -/
  | member (done : List (Atom × Tree)) (key : Atom)

namespace Frame

/-- The open containers as they stand when the text stops inside them. -/
def abandon : List Frame → Tree → Tree
  | [], t => t
  | .array done :: rest, t => abandon rest (.array (t :: done).reverse (.cut none))
  | .member done k :: rest, t => abandon rest (.object ((k, t) :: done).reverse (.cut none))

end Frame

/-- What the words so far make, and what may come next. -/
inductive Builder where
  | value (stack : List Frame)
  /-- After an opening bracket: an item or the closing bracket. -/
  | firstItem (stack : List Frame)
  | afterItem (done : List Tree) (stack : List Frame)
  /-- After an opening brace: a key or the closing brace. -/
  | firstKey (stack : List Frame)
  | key (done : List (Atom × Tree)) (stack : List Frame)
  | colon (done : List (Atom × Tree)) (key : Atom) (stack : List Frame)
  | afterMember (done : List (Atom × Tree)) (stack : List Frame)
  | finished (t : Tree)
  /-- A word stood where it may not. -/
  | stopped (t : Tree)

namespace Builder

/-- Hands a value to the container that waits for it. -/
def deliver (t : Tree) : List Frame → Builder
  | [] => .finished t
  | .array done :: rest => .afterItem (t :: done) rest
  | .member done k :: rest => .afterMember ((k, t) :: done) rest

/-- What there is if no further word can be taken. -/
def abandoned (next : Option Token) : Builder → Tree
  | .value stack => Frame.abandon stack .broken
  | .firstItem stack => Frame.abandon stack (.array [] (.cut next))
  | .afterItem done stack => Frame.abandon stack (.array done.reverse (.cut next))
  | .firstKey stack => Frame.abandon stack (.object [] (.cut next))
  | .key done stack => Frame.abandon stack (.object done.reverse (.cut next))
  | .colon done k stack => Frame.abandon stack (.object ((k, .broken) :: done).reverse (.cut none))
  | .afterMember done stack => Frame.abandon stack (.object done.reverse (.cut next))
  | .finished t => t
  | .stopped t => t

/-- Whether a word may be the key of a member. -/
def keyOf? : Token → Option Atom
  | .atom (.string s) => some (.string s)
  | .atom .loneSurrogate => some .loneSurrogate
  | _ => none

/-- Begins a value, if the word can begin one. -/
def begin? (t : Token) (stack : List Frame) : Option Builder :=
  match t with
  | .openArray => some (.firstItem stack)
  | .openObject => some (.firstKey stack)
  | .atom a => some (deliver (.atom a) stack)
  | _ => none

/-- Takes one word, if it may stand here. -/
def step? (b : Builder) (t : Token) : Option Builder :=
  match b with
  | .value stack => begin? t stack
  | .firstItem stack =>
    match t with
    | .closeArray => some (deliver (.array [] .closed) stack)
    | t => begin? t (.array [] :: stack)
  | .afterItem done stack =>
    match t with
    | .comma => some (.value (.array done :: stack))
    | .closeArray => some (deliver (.array done.reverse .closed) stack)
    | _ => none
  | .firstKey stack =>
    match t with
    | .closeObject => some (deliver (.object [] .closed) stack)
    | t => (keyOf? t).map fun k => .colon [] k stack
  | .key done stack => (keyOf? t).map fun k => .colon done k stack
  | .colon done k stack =>
    match t with
    | .colon => some (.value (.member done k :: stack))
    | _ => none
  | .afterMember done stack =>
    match t with
    | .comma => some (.key done stack)
    | .closeObject => some (deliver (.object done.reverse .closed) stack)
    | _ => none
  | .finished _ => none
  | .stopped _ => none

/-- Takes one word, or stops at it. -/
def step (b : Builder) (t : Token) : Builder :=
  match b.step? t with
  | some next => next
  | none => .stopped (b.abandoned (some t))

end Builder

/-- A text: the value at its start, and whether anything follows it. -/
structure Document where
  root : Tree
  /-- Nothing but blanks stands behind the value. -/
  complete : Bool

/-- Takes words until a value is complete or a word may not stand where it does. -/
def Builder.run : Builder → List Token → Document
  | .finished t, rest => ⟨t, rest.isEmpty⟩
  | .stopped t, _ => ⟨t, false⟩
  | b, [] => ⟨b.abandoned none, false⟩
  | b, t :: rest => run (b.step t) rest

/-- What the text holds. -/
def Document.ofText (s : String) : Document :=
  (Builder.value []).run (tokens s.toList)

/-! ## Well-formed trees -/

mutual

/-- Whether the text of the tree has no mistake. -/
def Tree.isWhole : Tree → Bool
  | .atom _ => true
  | .array items .closed => areWhole items
  | .object members .closed => membersAreWhole members
  | .array _ (.cut _) => false
  | .object _ (.cut _) => false
  | .broken => false

/-- Whether no item has a mistake. -/
def areWhole : List Tree → Bool
  | [] => true
  | t :: rest => t.isWhole && areWhole rest

/-- Whether no member has a mistake. -/
def membersAreWhole : List (Atom × Tree) → Bool
  | [] => true
  | (_, t) :: rest => t.isWhole && membersAreWhole rest

end

mutual

def Tree.ofValue : Value → Tree
  | .null => .atom .null
  | .bool b => .atom (.bool b)
  | .number n => .atom (.number n)
  | .string s => .atom (.string s)
  | .array items => .array (treesOf items) .closed
  | .object members => .object (memberTrees members) .closed

def treesOf : List Value → List Tree
  | [] => []
  | v :: rest => Tree.ofValue v :: treesOf rest

def memberTrees : List (String × Value) → List (Atom × Tree)
  | [] => []
  | (k, v) :: rest => (.string k, Tree.ofValue v) :: memberTrees rest

end

/-! ## Values -/

/-- Members with a new value for a key, sorted by key; the newest value counts. -/
def putMember (k : String) (v : Value) : List (String × Value) → List (String × Value)
  | [] => [(k, v)]
  | (k', v') :: rest =>
    if k = k' then (k, v) :: rest
    else if k < k' then (k, v) :: (k', v') :: rest
    else (k', v') :: putMember k v rest

mutual

/-- The value of a tree whose containers nest no deeper than the bound; objects
have their members in the order of the keys. -/
def Tree.toValue? (t : Tree) (depth : Nat) : Option Value :=
  match t with
  | .atom .null => some .null
  | .atom (.bool b) => some (.bool b)
  | .atom (.number n) => some (.number n)
  | .atom (.string s) => some (.string s)
  | .atom .hugeNumber => none
  | .atom .loneSurrogate => none
  | .array items .closed => if depth = 0 then none else (toValues? items (depth - 1)).map .array
  | .object members .closed =>
    if depth = 0 then none else (toMembers? members (depth - 1)).map .object
  | .array _ (.cut _) => none
  | .object _ (.cut _) => none
  | .broken => none

def toValues? (ts : List Tree) (depth : Nat) : Option (List Value) :=
  match ts with
  | [] => some []
  | t :: rest =>
    match t.toValue? depth, toValues? rest depth with
    | some v, some vs => some (v :: vs)
    | _, _ => none

/-- The members of an object, the later of two with one key counting. -/
def toMembers? (ms : List (Atom × Tree)) (depth : Nat) : Option (List (String × Value)) :=
  match ms with
  | [] => some []
  | (k, t) :: rest =>
    match k, t.toValue? depth, toMembers? rest depth with
    | .string k, some v, some members =>
      some (if members.any (·.1 == k) then members else putMember k v members)
    | _, _, _ => none

end

/-- Containers may nest to this depth in a text that is read as a value. -/
def maximalDepth : Nat := 127

/-- The value that a text holds, if it holds one and nothing else. -/
def Value.ofText? (s : String) : Option Value :=
  let d := Document.ofText s
  if d.complete then d.root.toValue? maximalDepth else none

end NetWatch.Json
