/-
NetWatch.Text.Blank — which characters count as blank space (`char::is_whitespace`).

Names, URLs and probe targets are refused when nothing but blanks is in them,
and host names may not hold a blank anywhere. "Blank" is the Unicode property
White_Space, a set of 25 characters that has not grown since it was fixed.
-/

namespace NetWatch.Text

/-- The Unicode property White_Space. -/
def isBlank (c : Char) : Bool :=
  let n := c.toNat
  (9 ≤ n && n ≤ 13) || n == 0x20 || n == 0x85 || n == 0xA0 || n == 0x1680
    || (0x2000 ≤ n && n ≤ 0x200A) || n == 0x2028 || n == 0x2029 || n == 0x202F
    || n == 0x205F || n == 0x3000

/-- What is left of the text after its leading blanks. -/
def trimStart (cs : List Char) : List Char :=
  cs.dropWhile isBlank

/-- Nothing but blanks, or nothing at all. -/
def isBlankText (s : String) : Bool :=
  s.toList.all isBlank

end NetWatch.Text
