/-
NetWatch.Time.Rfc3339 — timestamps as text, as `chrono` writes and reads them.

Writing gives universal time with a `Z`, as few fraction digits (0, 3, 6 or 9)
as hold the value, and years outside 0 to 9999 with a sign. Reading is lenient:
any offset, blanks before each number and around the separators of the date,
`T`, `t` or one blank between date and time, years with a sign, and more
fraction digits than nanoseconds need.
-/
import NetWatch.Text.Blank
import NetWatch.Text.Digits
import NetWatch.Time.Timestamp

namespace NetWatch.Rfc3339

open Text

/-! ## Writing -/

/-- Four digits for the years 0 to 9999; a sign before at least four for all others. -/
def yearText (year : Int) : List Char :=
  if 0 ≤ year ∧ year ≤ 9999 then padded 4 year.toNat
  else (if year < 0 then '-' else '+') :: padded 4 year.natAbs

/-- The fraction of a second: nothing, or a point and 3, 6 or 9 digits. -/
def fractionText (nanos : Nat) : List Char :=
  if nanos = 0 then []
  else if nanos % 1000000 = 0 then '.' :: padded 3 (nanos / 1000000)
  else if nanos % 1000 = 0 then '.' :: padded 6 (nanos / 1000)
  else '.' :: padded 9 nanos

/-- The time of day; a leap second is written as second 60. -/
def timeText (secondOfDay nanos : Nat) : List Char :=
  let second := secondOfDay % 60 + nanos / 1000000000
  padded 2 (secondOfDay / 3600) ++ ':' :: padded 2 (secondOfDay / 60 % 60)
    ++ ':' :: padded 2 second ++ fractionText (nanos % 1000000000)

/-- A date as year, month and day. -/
def dateText (d : Date) : List Char :=
  yearText d.year ++ '-' :: padded 2 d.month ++ '-' :: padded 2 d.day

def chars (t : Timestamp) : List Char :=
  dateText t.date ++ 'T' :: timeText t.secondOfDay.toNat t.nanos ++ ['Z']

def format (t : Timestamp) : String :=
  String.ofList (chars t)

/-! ## Reading -/

/-- At least one digit and at most `width` of them. -/
def digits (width : Nat) (cs : List Char) : Option (Nat × List Char) :=
  let run := (cs.take width).takeWhile Char.isDigit
  (decimal? run).map fun n => (n, cs.drop run.length)

/-- A number of at most two digits, blanks before it. -/
def twoDigits (cs : List Char) : Option (Nat × List Char) :=
  digits 2 (trimStart cs)

/-- A year: at most four digits, or a sign and any number of them. -/
def year (cs : List Char) : Option (Int × List Char) :=
  match trimStart cs with
  | '-' :: rest => (digits rest.length rest).map fun r => (-(r.1 : Int), r.2)
  | '+' :: rest => (digits rest.length rest).map fun r => ((r.1 : Int), r.2)
  | rest => (digits 4 rest).map fun r => ((r.1 : Int), r.2)

/-- One given character. -/
def literal (c : Char) : List Char → Option (List Char)
  | d :: rest => if c = d then some rest else none
  | [] => none

/-- The fraction of a second in nanoseconds; digits after the ninth are dropped. -/
def fraction : List Char → Option (Nat × List Char)
  | '.' :: rest =>
    (digits 9 rest).map fun r =>
      (r.1 * Nat.pow 10 (9 - (rest.length - r.2.length)), r.2.dropWhile Char.isDigit)
  | rest => some (0, rest)

/-- The two digits at the front, nothing before them. -/
def exactlyTwo : List Char → Option (Nat × List Char)
  | a :: b :: rest => do
    let hi ← digit? a
    let lo ← digit? b
    return (10 * hi + lo, rest)
  | _ => none

/-- Hours and minutes of an offset in seconds; colons and blanks may stand between them. -/
def offsetAmount (cs : List Char) : Option (Nat × List Char) := do
  let (hours, rest) ← exactlyTwo cs
  let (minutes, rest) ← exactlyTwo (rest.dropWhile fun c => c == ':' || isBlank c)
  if hours ≤ 23 ∧ minutes ≤ 59 then return (3600 * hours + 60 * minutes, rest) else none

/-- `UTC` in any case at the front. -/
def universal : List Char → Option (List Char)
  | u :: t :: c :: rest =>
    if u.toUpper = 'U' ∧ t.toUpper = 'T' ∧ c.toUpper = 'C' then some rest else none
  | _ => none

/-- The offset from universal time in seconds. -/
def offset (cs : List Char) : Option (Int × List Char) :=
  match universal cs with
  | some rest => some (0, rest)
  | none =>
    match cs with
    | 'Z' :: rest => some (0, rest)
    | 'z' :: rest => some (0, rest)
    | '+' :: rest => (offsetAmount rest).map fun r => ((r.1 : Int), r.2)
    | '-' :: rest => (offsetAmount rest).map fun r => (-(r.1 : Int), r.2)
    | '−' :: rest => (offsetAmount rest).map fun r => (-(r.1 : Int), r.2)
    | _ => none

/-- The separator of date and time. -/
def separator : List Char → Option (List Char)
  | 'T' :: rest => some rest
  | 't' :: rest => some rest
  | ' ' :: rest => some rest
  | _ => none

/-- A date, with the blanks that may stand in it. -/
def date (cs : List Char) : Option (Date × List Char) := do
  let (y, rest) ← year cs
  let rest ← literal '-' (trimStart rest)
  let (m, rest) ← twoDigits rest
  let rest ← literal '-' (trimStart rest)
  let (d, rest) ← twoDigits rest
  return (⟨y, m, d⟩, rest)

/-- A time of day: hour, minute and second up to 60, and the nanoseconds. -/
def time (cs : List Char) : Option ((Nat × Nat × Nat × Nat) × List Char) := do
  let (h, rest) ← twoDigits cs
  let rest ← literal ':' (trimStart rest)
  let (m, rest) ← twoDigits rest
  let rest ← literal ':' (trimStart rest)
  let (s, rest) ← twoDigits rest
  let (n, rest) ← fraction rest
  return ((h, m, s, n), rest)

/-- The moment of a local date and time at an offset. -/
def moment (d : Date) (h m s n : Nat) (offset : Int) : Option Timestamp :=
  if d.Valid ∧ -262143 ≤ d.year ∧ d.year ≤ 262142 ∧ h ≤ 23 ∧ m ≤ 59 ∧ s ≤ 60 then
    let seconds := 86400 * d.dayNumber + (3600 * h + 60 * m + min s 59 : Nat) - offset
    Timestamp.ofParts? seconds (if s = 60 then 1000000000 + n else n)
  else none

/-- Reads the characters of a timestamp, to their end. -/
def ofChars? (cs : List Char) : Option Timestamp := do
  let (d, rest) ← date cs
  let rest ← separator rest
  let ((h, m, s, n), rest) ← time rest
  let (off, rest) ← offset (trimStart rest)
  if trimStart rest = [] then moment d h m s n off else none

def parse? (s : String) : Option Timestamp :=
  ofChars? s.toList

example : (parse? "2025-03-02T12:00:00Z").map format = some "2025-03-02T12:00:00Z" := by
  decide +kernel

example : (parse? "2016-12-31 23:59:60.5+00:00").map format = some "2016-12-31T23:59:60.500Z" := by
  decide +kernel

end NetWatch.Rfc3339
