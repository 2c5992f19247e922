/-
NetWatch.Address.Ip — Internet addresses as text.

An address of version 4 is four decimal numbers below 256, none with a leading
zero. One of version 6 is eight groups of hexadecimal digits; one run of groups
may be left out as `::`, and the last two may be written as an address of
version 4. URLs are more lenient about version 4: fewer parts, octal and
hexadecimal numbers.
-/
import NetWatch.Text.Digits
import NetWatch.Text.Hex

namespace NetWatch.Ip

open Text

/-- The parts of a text between the places where a character stands. -/
def splitOn (sep : Char) : List Char → List (List Char)
  | [] => [[]]
  | c :: rest =>
    match splitOn sep rest with
    | [] => [[]]
    | part :: parts => if c = sep then [] :: part :: parts else (c :: part) :: parts

/-! ## Version 4 -/

/-- A number below 256 without needless zeros. -/
def octet? (cs : List Char) : Option Nat := do
  if 3 < cs.length ∨ (cs.head? = some '0' ∧ cs.length ≠ 1) then none
  else
    let n ← decimal? cs
    if n < 256 then some n else none

/-- The number of an address of version 4. -/
def v4? (cs : List Char) : Option Nat :=
  match splitOn '.' cs with
  | [a, b, c, d] => do
    let a ← octet? a
    let b ← octet? b
    let c ← octet? c
    let d ← octet? d
    return 16777216 * a + 65536 * b + 256 * c + d
  | _ => none

/-- An address of version 4 as four decimal numbers. -/
def v4Chars (n : Nat) : List Char :=
  decimal (n / 16777216 % 256) ++ '.' :: decimal (n / 65536 % 256) ++ '.' ::
    decimal (n / 256 % 256) ++ '.' :: decimal (n % 256)

/-! ## Version 6 -/

def hexNumber (start : Nat) : List Char → Option Nat
  | [] => some start
  | c :: rest => do hexNumber (16 * start + (← Hex.digit? c)) rest

/-- One to four hexadecimal digits. -/
def group? (cs : List Char) : Option Nat :=
  if cs = [] ∨ 4 < cs.length then none else hexNumber 0 cs

/-- The groups of one side of `::`; where allowed the last part may be an address of version 4. -/
def groups (embedded : Bool) : List (List Char) → Option (List Nat)
  | [] => some []
  | [part] =>
    match group? part with
    | some g => some [g]
    | none =>
      if embedded then (v4? part).map fun n => [n / 65536, n % 65536] else none
  | part :: rest => do
    let g ← group? part
    let gs ← groups embedded rest
    return g :: gs

/-- The groups of a side, of which there may be none. -/
def side (embedded : Bool) (cs : List Char) : Option (List Nat) :=
  if cs = [] then some [] else groups embedded (splitOn ':' cs)

/-- The text before and after the first `::`. -/
def splitAtGap : List Char → Option (List Char × List Char)
  | ':' :: ':' :: rest => some ([], rest)
  | c :: rest => (splitAtGap rest).map fun r => (c :: r.1, r.2)
  | [] => none

/-- The eight groups of an address of version 6. -/
def v6? (cs : List Char) : Option (List Nat) :=
  match splitAtGap cs with
  | none => do
    let gs ← side true cs
    if gs.length = 8 then some gs else none
  | some (before, after) => do
    let hs ← side false before
    let ts ← side true after
    if hs.length + ts.length ≤ 7 then
      some (hs ++ List.replicate (8 - hs.length - ts.length) 0 ++ ts)
    else none

/-- How many groups from the front are zero. -/
def zeros (gs : List Nat) : Nat :=
  (gs.takeWhile (· == 0)).length

/-- The longest run of zero groups, the first of several: where it starts and its length. -/
def longestGap (start : Nat) : List Nat → Nat × Nat
  | [] => (start, 0)
  | g :: rest =>
    let here := zeros (g :: rest)
    let later := longestGap (start + 1) rest
    if later.2 ≤ here then (start, here) else later

/-- A group in hexadecimal digits. -/
def hexChars (n : Nat) : List Char :=
  if n < 16 then [Hex.digitChar n] else hexChars (n / 16) ++ [Hex.digitChar (n % 16)]
termination_by n
decreasing_by omega

/-- Groups with colons between them. -/
def joined : List Nat → List Char
  | [] => []
  | [g] => hexChars g
  | g :: rest => hexChars g ++ ':' :: joined rest

/-- An address of version 6, its longest run of two zero groups or more left out. -/
def v6Chars (gs : List Nat) : List Char :=
  let gap := longestGap 0 gs
  if gap.2 < 2 then joined gs
  else joined (gs.take gap.1) ++ ':' :: ':' :: joined (gs.drop (gap.1 + gap.2))

/-- Whether the text is an address of either version. -/
def isAddress (s : String) : Bool :=
  (v4? s.toList).isSome || (v6? s.toList).isSome

/-! ## Version 4 in URLs -/

def baseNumber (base : Nat) (start : Nat) : List Char → Option Nat
  | [] => some start
  | c :: rest => do
    let d ← Hex.digit? c
    if d < base then baseNumber base (base * start + d) rest else none

/-- A decimal number, an octal one after `0`, or a hexadecimal one after `0x`. -/
def lenientNumber : List Char → Option Nat
  | [] => none
  | '0' :: 'x' :: rest => baseNumber 16 0 rest
  | '0' :: 'X' :: rest => baseNumber 16 0 rest
  | '0' :: c :: rest => baseNumber 8 0 (c :: rest)
  | cs => baseNumber 10 0 cs

/-- The parts of a host name; an empty one at the end does not count. -/
def hostParts (cs : List Char) : List (List Char) :=
  let parts := splitOn '.' cs
  if parts.getLast? = some [] then parts.dropLast else parts

/-- Whether the last part of a host name is a number, so that the host must be an address. -/
def endsInNumber (cs : List Char) : Bool :=
  match (hostParts cs).getLast? with
  | some part => (part ≠ [] && part.all Char.isDigit) || (lenientNumber part).isSome
  | none => false

/-- Puts the parts together: all but the last are single bytes, the last fills what is left. -/
def assemble : Nat → List Nat → Option Nat
  | _, [] => none
  | places, [last] => if last < Nat.pow 256 (places + 1) then some last else none
  | 0, _ :: _ :: _ => none
  | places + 1, n :: rest => do
    let low ← assemble places rest
    if n < 256 then some (n * Nat.pow 256 (places + 1) + low) else none

/-- The number of a leniently written address of version 4. -/
def lenientV4? (cs : List Char) : Option Nat := do
  let ns ← (hostParts cs).mapM lenientNumber
  assemble 3 ns

end NetWatch.Ip
