/-
NetWatch.Toml.Scalar — numbers, truth values and moments in TOML documents.

Underscores may stand between the digits of a number. Integers have a sign of
64 bits and may be written to the base 16, 8 or 2; in decimal no needless zero
stands in front. A moment is a date, a time of day or both; it has to exist,
but is of no use here beyond that.
-/
import NetWatch.Json.Value
import NetWatch.Time.Date
import NetWatch.Toml.Text

namespace NetWatch.Toml

open Json

/-! ## Runs of digits -/

/-- The digits behind a first one, and the text behind them; an underscore counts
only between two digits. -/
def moreDigits (isDigit : Char → Bool) : List Char → List Char × List Char
  | [] => ([], [])
  | [c] => if isDigit c then ([c], []) else ([], [c])
  | c :: d :: rest =>
    if isDigit c then
      let r := moreDigits isDigit (d :: rest)
      (c :: r.1, r.2)
    else if c = '_' && isDigit d then moreDigits isDigit (d :: rest)
    else ([], c :: d :: rest)

/-- A run of digits at the front of the text, and the text behind it. -/
def digitRun (isDigit : Char → Bool) : List Char → Option (List Char × List Char)
  | [] => none
  | c :: rest =>
    if isDigit c then
      let r := moreDigits isDigit rest
      some (c :: r.1, r.2)
    else none

/-- A run of decimal digits without a needless zero in front. -/
def decimalRun : List Char → Option (List Char × List Char)
  | '0' :: rest => some (['0'], rest)
  | cs => digitRun Char.isDigit cs

/-- Whether a minus stands at the front, and the text behind a sign. -/
def sign : List Char → Bool × List Char
  | '-' :: rest => (true, rest)
  | '+' :: rest => (false, rest)
  | cs => (false, cs)

/-! ## Integers -/

def numberOf (base : Nat) (ds : List Char) : Nat :=
  ds.foldl (fun n c => base * n + (Text.Hex.digit? c).getD 0) 0

/-- An integer that 64 bits with a sign can hold. -/
def fitting (i : Int) : Option Value :=
  if -9223372036854775808 ≤ i ∧ i ≤ 9223372036854775807 then some (.int i) else none

/-- An integer to a base other than ten, behind its mark. -/
def basedInteger (base : Nat) (isDigit : Char → Bool) (cs : List Char) :
    Option (Value × List Char) := do
  let (ds, rest) ← digitRun isDigit cs
  let v ← fitting (numberOf base ds)
  return (v, rest)

def integer : List Char → Option (Value × List Char)
  | '0' :: 'x' :: rest => basedInteger 16 (fun c => (Text.Hex.digit? c).isSome) rest
  | '0' :: 'o' :: rest => basedInteger 8 (fun c => '0' ≤ c && c ≤ '7') rest
  | '0' :: 'b' :: rest => basedInteger 2 (fun c => c == '0' || c == '1') rest
  | cs => do
    let (negative, cs) := sign cs
    let (ds, rest) ← decimalRun cs
    let n := numberOf 10 ds
    let v ← fitting (if negative then -(n : Int) else n)
    return (v, rest)

/-! ## Doubles -/

/-- The digits behind a point and the text behind them; none if there is no point. -/
def fraction : List Char → Option (List Char × List Char)
  | '.' :: rest => digitRun Char.isDigit rest
  | cs => some ([], cs)

/-- An exponent and the text behind it; none if there is no letter for one. -/
def exponent (cs : List Char) : Option (Option Int × List Char) :=
  match cs with
  | [] => some (none, [])
  | c :: rest =>
    if c = 'e' || c = 'E' then do
      let (negative, cs) := sign rest
      let (ds, rest) ← digitRun Char.isDigit cs
      let n : Int := numberOf 10 ds
      return (some (if negative then -n else n), rest)
    else some (none, cs)

/-- A number of digits scaled by a power of ten. Powers far out of the range of
doubles need not be worked out. -/
def scaled (digits : List Char) (power : Int) : Float :=
  let n := numberOf 10 digits
  let order := (digits.dropWhile (· == '0')).length + power
  if n = 0 ∨ order < -400 then 0
  else if 400 < order then 1 / 0
  else Float.ofScientific n (power < 0) power.natAbs

/-- A number with point or exponent at the front of the text; one that is too
large is none, but one that is too far below zero counts as infinite. -/
def decimalFloat (cs : List Char) : Option (Value × List Char) := do
  let (negative, cs) := sign cs
  let (whole, afterWhole) ← decimalRun cs
  let (fraction, afterFraction) ← fraction afterWhole
  let (power, rest) ← exponent afterFraction
  if fraction = [] ∧ power.isNone then none
  else
    let x := scaled (whole ++ fraction) (power.getD 0 - fraction.length)
    if negative then return (.float (-x), rest)
    else if x.isInf then none
    else return (.float x, rest)

/-- An infinite number or none at all, by its name. -/
def namedFloat (cs : List Char) : Option (Value × List Char) :=
  let (negative, cs) := sign cs
  match cs with
  | 'i' :: 'n' :: 'f' :: rest => some (.float (if negative then -1 / 0 else 1 / 0), rest)
  | 'n' :: 'a' :: 'n' :: rest => some (.float (0 / 0), rest)
  | _ => none

/-! ## Moments -/

/-- So many digits, read as a number, and the text behind them. -/
def exactly (width : Nat) (cs : List Char) : Option (Nat × List Char) := do
  let n ← Text.decimal? (cs.take width)
  if (cs.take width).length = width then return (n, cs.drop width) else none

/-- The text behind one certain character. -/
def behind (c : Char) : List Char → Option (List Char)
  | [] => none
  | d :: rest => if c = d then some rest else none

/-- The text behind a date that exists. -/
def dateRest (cs : List Char) : Option (List Char) := do
  let (year, cs) ← exactly 4 cs
  let (month, cs) ← exactly 2 (← behind '-' cs)
  let (day, rest) ← exactly 2 (← behind '-' cs)
  if (⟨year, month, day⟩ : Date).Valid then some rest else none

/-- The text behind hour and minute. -/
def minuteRest (cs : List Char) : Option (List Char) := do
  let (hour, cs) ← exactly 2 cs
  let (minute, rest) ← exactly 2 (← behind ':' cs)
  if hour ≤ 23 ∧ minute ≤ 59 then some rest else none

/-- The text behind the digits of a second behind its point. -/
def subsecondRest : List Char → Option (List Char)
  | '.' :: rest => if (Text.spanDigits rest).1 = [] then none else some (Text.spanDigits rest).2
  | cs => some cs

/-- The text behind a time of day; a second may be the sixtieth. -/
def timeRest (cs : List Char) : Option (List Char) := do
  let cs ← minuteRest cs
  let (second, rest) ← exactly 2 (← behind ':' cs)
  if second ≤ 60 then subsecondRest rest else none

/-- The text behind a distance from universal time. -/
def offsetRest : List Char → Option (List Char)
  | 'Z' :: rest => some rest
  | 'z' :: rest => some rest
  | '+' :: rest => minuteRest rest
  | '-' :: rest => minuteRest rest
  | _ => none

/-- The text behind the time that follows a date, if one does. -/
def timeOfDate (cs : List Char) : List Char :=
  match cs with
  | [] => []
  | c :: rest =>
    if c = 'T' || c = 't' || c = ' ' then
      match timeRest rest with
      | some rest => (offsetRest rest).getD rest
      | none => cs
    else cs

/-- A moment at the front of the text. It reads as an object without members. -/
def moment (cs : List Char) : Option (Value × List Char) :=
  match dateRest cs with
  | some rest => some (.object [], timeOfDate rest)
  | none => (timeRest cs).map fun rest => (.object [], rest)

/-! ## All together -/

/-- A value that holds no others, at the front of the text. -/
def scalar (cs : List Char) : Option (Value × List Char) :=
  match cs with
  | '"' :: _ => (readString cs).map fun r => (.string (String.ofList r.1), r.2)
  | '\x27' :: _ => (readString cs).map fun r => (.string (String.ofList r.1), r.2)
  | 't' :: 'r' :: 'u' :: 'e' :: rest => some (.bool true, rest)
  | 'f' :: 'a' :: 'l' :: 's' :: 'e' :: rest => some (.bool false, rest)
  | cs => moment cs <|> decimalFloat cs <|> namedFloat cs <|> integer cs

end NetWatch.Toml
