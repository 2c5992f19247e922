/-
NetWatch.Json.Number — numbers in JSON text, as `serde_json` reads them.

A number without point and exponent that fits 64 bits is an integer, every
other one a double. A double is read by gathering digits into 64 bits, as many
as fit, and scaling once by a power of ten; that is exact for short numbers and
may be off in the last place for long ones. A number too large for a double has
no value.
-/
import NetWatch.Decimal.Shortest

namespace NetWatch.Json

/-- A number: an integer of 64 bits, with or without sign, or a double. -/
inductive Number where
  | int (i : Int)
  | float (x : Float)
  deriving Repr

namespace Number

/-- The integers that a number can hold: from −2⁶³ to 2⁶⁴ − 1. -/
def fitsWord (i : Int) : Bool :=
  -9223372036854775808 ≤ i && i ≤ 18446744073709551615

/-- The number as text; the special doubles have none and become `null`. -/
def chars : Number → List Char
  | .int i => if i < 0 then '-' :: Text.decimal i.natAbs else Text.decimal i.natAbs
  | .float x => if x.isFinite then Decimal.text x else "null".toList

/-- The number as a double. -/
def toFloat : Number → Float
  | .int i => if i < 0 then (Int64.ofInt i).toFloat else (UInt64.ofNat i.toNat).toFloat
  | .float x => x

end Number

/-! ## Reading -/

/-- The parts of a number as written. -/
structure Numeral where
  negative : Bool
  whole : List Char
  fraction : Option (List Char)
  exponent : Option (Bool × List Char)
  deriving DecidableEq, Repr

namespace Numeral

/-- Digits gathered into a word, and by how many powers of ten the word falls short. -/
structure Gathered where
  word : Nat
  shift : Int

/-- Takes a digit in if it fits into 64 bits. -/
def Gathered.push? (g : Gathered) (c : Char) : Option Nat :=
  let word := 10 * g.word + (c.toNat - 48)
  if word < 18446744073709551616 then some word else none

/-- Gathers the digits before the point: from the first that does not fit, each counts as a
power of ten. -/
def Gathered.whole (g : Gathered) : List Char → Gathered
  | [] => g
  | c :: rest =>
    match g.push? c with
    | some word => whole ⟨word, g.shift⟩ rest
    | none => ⟨g.word, g.shift + (rest.length + 1)⟩

/-- Gathers the digits after the point, up to the first that does not fit. -/
def Gathered.fraction (g : Gathered) : List Char → Gathered
  | [] => g
  | c :: rest =>
    match g.push? c with
    | some word => fraction ⟨word, g.shift - 1⟩ rest
    | none => g

/-- Divides by a power of ten, in steps that a double can hold. -/
def divide (x : Float) (n : Nat) : Float :=
  if n ≤ 308 then x / Float.ofScientific 1 false n
  else if x == 0 then x
  else divide (x / Float.ofScientific 1 false 308) (n - 308)
termination_by n
decreasing_by omega

/-- A word scaled by a power of ten; nothing where that is too large for a double. -/
def scale (word : Nat) (power : Int) : Option Float :=
  let x := (UInt64.ofNat word).toFloat
  if power < 0 then some (divide x power.natAbs)
  else if power.toNat ≤ 308 then
    let y := x * Float.ofScientific 1 false power.toNat
    if y.isInf then none else some y
  else if word = 0 then some x
  else none

def digitsValue (cs : List Char) : Nat :=
  (Text.decimal? cs).getD 0

def magnitude (n : Numeral) : Option Float :=
  let g := ((⟨0, 0⟩ : Gathered).whole n.whole).fraction (n.fraction.getD [])
  match n.exponent with
  | none => scale g.word g.shift
  | some (negative, ds) =>
    let e := digitsValue ds
    if 2147483648 ≤ e then if g.word ≠ 0 ∧ negative = false then none else some 0
    else scale g.word (if negative then g.shift - e else g.shift + e)

/-- The value of the number; nothing where it is too large. -/
def value (n : Numeral) : Option Number :=
  let m := digitsValue n.whole
  let plain := n.fraction.isNone && n.exponent.isNone
  if plain && !n.negative && m < 18446744073709551616 then some (.int m)
  else if plain && n.negative && 0 < m && m ≤ 9223372036854775808 then some (.int (-m))
  else n.magnitude.map fun x => .float (if n.negative then -x else x)

end Numeral

/-! ## Scanning -/

/-- Digits at the front and what follows them; there must be one at least. -/
def someDigits (cs : List Char) : Option (List Char × List Char) :=
  match Text.spanDigits cs with
  | ([], _) => none
  | (ds, rest) => some (ds, rest)

/-- The digits before the point: a lone zero, or digits that start with another one. -/
def wholePart (cs : List Char) : Option (List Char × List Char) := do
  let (ds, rest) ← someDigits cs
  if ds.head? = some '0' ∧ ds.length ≠ 1 then none else some (ds, rest)

/-- A point and digits, if a point stands here. -/
def fractionPart : List Char → Option (Option (List Char) × List Char)
  | '.' :: rest => (someDigits rest).map fun r => (some r.1, r.2)
  | cs => some (none, cs)

def exponentDigits (negative : Bool) (cs : List Char) :
    Option (Option (Bool × List Char) × List Char) :=
  (someDigits cs).map fun r => (some (negative, r.1), r.2)

def signedExponent : List Char → Option (Option (Bool × List Char) × List Char)
  | '-' :: rest => exponentDigits true rest
  | '+' :: rest => exponentDigits false rest
  | cs => exponentDigits false cs

/-- An exponent, if one stands here. -/
def exponentPart : List Char → Option (Option (Bool × List Char) × List Char)
  | 'e' :: rest => signedExponent rest
  | 'E' :: rest => signedExponent rest
  | cs => some (none, cs)

/-- The parts of a number after its sign. -/
def unsignedNumeral (negative : Bool) (cs : List Char) : Option (Numeral × List Char) := do
  let (whole, rest) ← wholePart cs
  let (fraction, rest) ← fractionPart rest
  let (exponent, rest) ← exponentPart rest
  return (⟨negative, whole, fraction, exponent⟩, rest)

def scanNumeral : List Char → Option (Numeral × List Char)
  | '-' :: rest => unsignedNumeral true rest
  | cs => unsignedNumeral false cs

end NetWatch.Json
