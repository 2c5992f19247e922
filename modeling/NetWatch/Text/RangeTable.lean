/-
NetWatch.Text.RangeTable — properties of characters given as ranges of code points.

A Unicode property is a few hundred ranges. Written out as text, each range is
the distance from the end of the range before it and its own length less one,
so that the numbers stay short: `65 25 7 25` is `A`–`Z`, `a`–`z`. Where the
property has values and not only members, the value of the range is a third
number.
-/

namespace NetWatch.Text

/-- The decimal number that some digits write; other characters do not count. -/
def number (cs : List Char) : Nat :=
  cs.foldl (fun n c => if c.isDigit then 10 * n + (c.toNat - 48) else n) 0

/-- The numbers on some lines, which stand apart by single blanks. -/
def numbers (lines : List String) : List Nat :=
  (lines.flatMap fun l => l.splitOn " ").map fun w => number w.toList

/-! ## Members -/

/-- A set of code points: closed ranges in rising order. -/
structure RangeTable where
  ranges : List (Nat × Nat)
  deriving Repr

namespace RangeTable

/-- Whether some range of the table holds the code point. -/
def contains (t : RangeTable) (n : Nat) : Bool :=
  t.ranges.any fun r => r.1 ≤ n && n ≤ r.2

/-- Reads gaps and lengths in turn, counting on from `next`. -/
def ofGaps : Nat → List Nat → List (Nat × Nat)
  | next, gap :: len :: rest =>
    (next + gap, next + gap + len) :: ofGaps (next + gap + len) rest
  | _, _ => []

/-- Reads a table written as lines of gaps and lengths. -/
def ofText (lines : List String) : RangeTable :=
  ⟨ofGaps 0 (numbers lines)⟩

end RangeTable

/-! ## Values -/

/-- Numbers given to code points: closed ranges in rising order, each with its number. -/
structure ValueTable where
  ranges : List (Nat × Nat × Nat)
  deriving Repr

namespace ValueTable

/-- The number of the range that holds the code point. -/
def get? (t : ValueTable) (n : Nat) : Option Nat :=
  (t.ranges.find? fun r => r.1 ≤ n && n ≤ r.2.1).map (·.2.2)

/-- Reads gaps, lengths and values in turn, counting on from `next`. -/
def ofGaps : Nat → List Nat → List (Nat × Nat × Nat)
  | next, gap :: len :: value :: rest =>
    (next + gap, next + gap + len, value) :: ofGaps (next + gap + len) rest
  | _, _ => []

/-- Reads a table written as lines of gaps, lengths and values. -/
def ofText (lines : List String) : ValueTable :=
  ⟨ofGaps 0 (numbers lines)⟩

end ValueTable

end NetWatch.Text
