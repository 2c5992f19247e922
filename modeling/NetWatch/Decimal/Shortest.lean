/-
NetWatch.Decimal.Shortest — the fewest decimal digits that single out a
floating-point number, in which `serde_json` writes it.

A finite number m · 2^q stands for every real that rounds to it. Of the
decimals in that interval the one with the fewest digits is written, of several
with so few digits the nearest, and of two that are as near the even one. For
each digit count only the two neighbours of the number on that decimal grid can
be meant, so the search tries these and stops at the first count that has one in
the interval.
-/
import NetWatch.Text.Digits

namespace NetWatch.Decimal

/-- The number `digits` · 10^`exponent`. -/
structure Scientific where
  digits : Nat
  exponent : Int
  deriving DecidableEq, Repr

/-- The reals that round to a number, and the number itself, all over one denominator. -/
structure Neighbourhood where
  value : Nat
  low : Nat
  high : Nat
  denominator : Nat
  /-- Whether the two ends belong to it. -/
  closed : Bool

/-- The neighbourhood of m · 2^q; the gap below is half as wide where `narrow`. -/
def Neighbourhood.of (m : Nat) (q : Int) (narrow : Bool) : Neighbourhood :=
  let unit := Nat.pow 2 (q - 2).toNat
  let below := if narrow then 1 else 2
  ⟨4 * m * unit, (4 * m - below) * unit, (4 * m + 2) * unit, Nat.pow 2 (2 - q).toNat, m % 2 == 0⟩

/-- Whether a numerator lies in the neighbourhood whose parts are scaled by `scale`. -/
def Neighbourhood.holds (n : Neighbourhood) (scale x : Nat) : Bool :=
  if n.closed then n.low * scale ≤ x && x ≤ n.high * scale
  else n.low * scale < x && x < n.high * scale

/-- Of the two neighbours of the value on the grid of 10^`exponent`, the one in
the neighbourhood, the nearer if both are, and the even one if both are as near. -/
def Neighbourhood.onGrid (n : Neighbourhood) (exponent : Int) : Option Scientific :=
  let scale := Nat.pow 10 (-exponent).toNat
  let step := n.denominator * Nat.pow 10 exponent.toNat
  let value := n.value * scale
  let below := value / step
  let above := below + 1
  let twice := 2 * (value - below * step)
  let nearBelow := twice < step || (twice == step && below % 2 == 0)
  match n.holds scale (below * step), n.holds scale (above * step) with
  | true, true => some ⟨if nearBelow then below else above, exponent⟩
  | true, false => some ⟨below, exponent⟩
  | false, true => some ⟨above, exponent⟩
  | false, false => none

/-- The exponent of the leading decimal digit of a positive quotient. -/
def magnitude (value denominator : Nat) : Int :=
  let guess : Int := (Text.decimal value).length - (Text.decimal denominator).length
  if denominator * Nat.pow 10 guess.toNat ≤ value * Nat.pow 10 (-guess).toNat then guess
  else guess - 1

/-- Tries grids of rising fineness, `remaining` of them. -/
def Neighbourhood.search (n : Neighbourhood) (exponent : Int) : Nat → Scientific
  | 0 => ⟨0, 0⟩
  | remaining + 1 => (n.onGrid exponent).getD (n.search (exponent - 1) remaining)

/-- Moves zeros at the end of the digits into the exponent. -/
def Scientific.strip (s : Scientific) : Scientific :=
  if h : 0 < s.digits ∧ s.digits % 10 = 0 then
    have : s.digits / 10 < s.digits := by omega
    strip ⟨s.digits / 10, s.exponent + 1⟩
  else s
termination_by s.digits

/-- The shortest decimal that rounds to m · 2^q; seventeen digits always suffice. -/
def shortest (m : Nat) (q : Int) (narrow : Bool) : Scientific :=
  let n := Neighbourhood.of m q narrow
  (n.search (magnitude n.value n.denominator) 18).strip

/-! ## Floating-point numbers -/

def fractionBits (x : Float) : Nat := x.toBits.toNat % 4503599627370496

def exponentBits (x : Float) : Nat := x.toBits.toNat / 4503599627370496 % 2048

def signBit (x : Float) : Bool := 9223372036854775808 ≤ x.toBits.toNat

/-- The shortest decimal for the magnitude of a finite double other than zero. -/
def ofFloat (x : Float) : Scientific :=
  if exponentBits x = 0 then shortest (fractionBits x) (-1074) false
  else shortest (4503599627370496 + fractionBits x) ((exponentBits x : Int) - 1075)
    (fractionBits x == 0 && 1 < exponentBits x)

/-! ## Text -/

/-- Digits with a point among them, or zeros up to the point, always with one digit after it. -/
def positional (s : Scientific) : List Char :=
  let ds := Text.decimal s.digits
  let point := (ds.length : Int) + s.exponent
  if 0 ≤ s.exponent then ds ++ List.replicate s.exponent.toNat '0' ++ ['.', '0']
  else if 0 < point then ds.take point.toNat ++ '.' :: ds.drop point.toNat
  else '0' :: '.' :: List.replicate (-point).toNat '0' ++ ds

/-- One digit before the point, the others after it, and the exponent with its sign. -/
def exponential (s : Scientific) : List Char :=
  let ds := Text.decimal s.digits
  let lead := (ds.length : Int) + s.exponent - 1
  let mantissa := if ds.length = 1 then ds else ds.take 1 ++ '.' :: ds.drop 1
  mantissa ++ 'e' :: (if lead < 0 then '-' else '+') :: Text.decimal lead.natAbs

/-- The text of a finite double: positional from 10⁻⁵ up to below 10¹⁶, exponential elsewhere. -/
def text (x : Float) : List Char :=
  let sign := if signBit x then ['-'] else []
  if x == 0 then sign ++ ['0', '.', '0']
  else
    let s := ofFloat x
    let lead := ((Text.decimal s.digits).length : Int) + s.exponent - 1
    sign ++ if -5 ≤ lead ∧ lead ≤ 15 then positional s else exponential s

end NetWatch.Decimal
