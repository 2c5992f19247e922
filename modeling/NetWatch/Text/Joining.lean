/-
NetWatch.Text.Joining — letters that connect to their neighbours.

In Arabic and some other scripts the shape of a letter depends on whether it
connects to the letters beside it. The Unicode property Joining_Type says on
which sides a letter can connect; the signs on a letter are passed over.
-/
import NetWatch.Text.RangeTable

namespace NetWatch.Text

/-- On which sides a character connects. -/
inductive Joining where
  /-- It is passed over. -/
  | transparent
  /-- It connects on both sides. -/
  | dual
  /-- It connects to the letter before it. -/
  | before
  /-- It connects to the letter after it. -/
  | after
  | apart
  deriving DecidableEq, Repr

namespace Joining

/-- The characters that connect or are passed over. -/
def table : ValueTable := .ofText [
  "768 111 0 276 6 0 264 44 0 2 0 0 2 1 0 2 1 0 2 0 0 73 10 0 6 0 1 2 3 2 1 0 1 1 0 2 1 0 1",
  "1 0 2 1 4 1 1 3 2 1 12 1 2 6 1 1 0 2 1 1 1 1 20 0 15 1 1 1 0 0 1 2 2 6 14 1 1 17 2 1 37 1",
  "1 0 2 1 1 1 1 8 2 1 0 1 1 0 2 1 0 1 1 0 2 1 1 1 1 1 2 2 0 2 1 6 0 3 5 0 3 1 0 2 3 0 1 1 2",
  "11 2 1 3 0 1 17 0 2 1 0 0 1 2 1 1 4 2 1 3 1 1 0 2 1 8 1 1 0 2 1 0 1 1 0 2 1 0 1 1 0 2 1 1 1",
  "1 0 2 1 26 0 3 0 2 1 10 1 1 2 2 1 14 1 1 1 2 1 3 1 1 0 2 1 0 1 1 1 2 1 2 1 1 1 2 1 5 1",
  "39 10 0 26 32 1 1 8 0 10 0 0 25 3 0 2 8 0 2 2 0 2 4 0 19 0 2 1 4 1 1 1 2 1 0 1 1 0 2 1 9 1",
  "1 0 2 1 0 1 1 2 2 1 2 0 5 0 1 2 3 1 2 0 2 1 0 1 1 25 2 4 0 1 3 4 1 1 0 2 10 7 0 1 9 1 1 2 2",
  "2 0 2 1 1 1 1 1 2 1 5 1 1 0 2 1 14 1 2 56 0 56 0 0 2 0 0 5 7 0 5 0 0 4 6 0 11 1 0 30 0 0",
  "59 0 0 5 3 0 9 0 0 21 1 0 27 4 0 58 0 0 5 16 0 31 1 0 4 0 0 12 1 0 58 0 0 5 7 0 5 0 0 21 1 0",
  "23 7 0 59 0 0 3 0 0 2 3 0 9 9 0 12 1 0 31 0 0 62 0 0 13 0 0 51 0 0 4 0 0 56 0 0 2 2 0 6 16 0",
  "12 1 0 30 0 0 59 0 0 3 0 0 7 0 0 6 1 0 21 1 0 29 1 0 58 1 0 5 3 0 9 0 0 21 1 0 30 0 0 73 0 0",
  "8 4 0 91 0 0 3 6 0 13 7 0 99 0 0 3 8 0 12 6 0 74 1 0 28 0 0 2 0 0 2 0 0 56 13 0 2 4 0 2 1 0",
  "6 47 0 10 0 0 103 3 0 2 5 0 2 1 0 3 1 0 26 1 0 5 2 0 17 3 0 14 0 0 3 1 0 7 0 0 16 0 0",
  "704 2 0 947 2 0 30 1 0 31 1 0 31 1 0 68 6 0 9 0 0 3 10 0 10 0 0 42 0 1 25 88 1 13 1 0 1 33 1",
  "1 0 0 1 0 1 118 2 0 5 1 0 10 0 0 7 2 0 220 1 0 3 0 0 59 0 0 2 8 0 2 0 0 3 7 0 7 12 0 49 83 0",
  "49 0 0 2 4 0 2 0 0 6 0 0 41 8 0 13 1 0 33 3 0 3 1 0 2 2 0 57 0 0 2 1 0 4 0 0 2 2 0 59 7 0",
  "3 1 0 153 2 0 2 12 0 2 6 0 5 0 0 7 0 0 4 1 0 199 63 0 721 32 0 3071 2 0 142 0 0 97 31 0",
  "555 3 0 108 1 0 30165 3 0 2 9 0 33 1 0 81 1 0 273 0 0 4 0 0 5 0 0 26 1 0 6 0 0 20 49 1 1 0 3",
  "82 1 0 27 17 0 14 0 0 39 7 0 26 10 0 47 2 0 49 0 0 3 3 0 3 1 0 40 0 0 68 5 0 3 1 0 3 1 0",
  "13 0 0 9 0 0 48 0 0 52 0 0 2 2 0 3 1 0 6 1 0 2 0 0 43 1 0 9 0 0 239 0 0 3 0 0 5 0 0",
  "20273 0 0 770 15 0 974 0 0 227 0 0 150 4 0 1671 14 0 41 7 0 129 4 1 1 0 2 2 0 2 2 1 2 3 0 3",
  "1 4 2 1 3 1 1 0 3 1 4 1 1 0 2 1 2 1 1 0 2 3 0 2 1 1 0 5 3 1 1 0 2 145 0 1 1 0 2 1 0 1 1 2 2",
  "1 2 1 1 0 2 1 1 1 1 0 2 1 0 1 1 1 2 1 0 1 1 0 2 24 3 2 1 1 1 338 0 3 1 32 1 1 0 2 1 0 1",
  "1 3 0 388 1 0 81 2 0 49 2 1 1 0 2 1 16 1 2 10 0 1 2 1 1 0 2 28 3 1 1 1 2 1 11 1 1 3 0 43 0 1",
  "2 1 1 1 2 2 2 0 1 1 1 2 1 1 1 1 0 2 1 1 1 2 0 1 1 1 2 1 0 1 5 0 2 1 0 1 1 0 3 54 0 0 55 14 0",
  "42 0 0 3 1 0 11 2 0 50 3 0 3 1 0 8 0 0 62 2 0 37 4 0 2 7 0 63 0 0 13 1 0 53 8 0 11 3 0 3 0 0",
  "96 2 0 3 0 0 2 1 0 7 0 0 3 0 0 158 0 0 4 7 0 22 1 0 58 1 0 4 0 0 38 14 0 196 7 0 3 2 0 2 0 0",
  "24 0 0 85 5 0 2 0 0 5 1 0 2 1 0 239 3 0 7 1 0 2 1 0 28 1 0 86 7 0 3 0 0 2 1 0 107 0 0 2 0 0",
  "3 5 0 2 0 0 102 2 0 3 3 0 2 4 0 260 8 0 2 1 0 257 1 0 2 0 0 5 0 0 145 7 0 5 0 0 33 9 0",
  "41 5 0 3 3 0 9 0 0 10 5 0 3 2 0 47 12 0 2 1 0 407 13 0 2 0 0 83 21 0 3 6 0 2 1 0 2 1 0",
  "123 20 0 2 0 0 73 1 0 4 0 0 2 0 0 348 1 0 12 1 0 53 4 0 6 0 0 2 0 0 5374 0 0 7 14 0",
  "13979 4 0 60 6 0 1049 0 0 64 3 0 82 0 0 19641 1 0 4706 70 0 545 2 0 18 7 0 3 6 0 31 3 0",
  "149 2 0 1980 54 0 5 49 0 9 0 0 15 0 0 23 20 0 1361 143 0 161 6 0 376 0 0 62 3 0 509 3 0",
  "993 6 0 76 33 1 1 7 0"]

/-- On which sides the character connects. -/
def ofChar (c : Char) : Joining :=
  match table.get? c.toNat with
  | some 0 => .transparent
  | some 1 => .dual
  | some 2 => .before
  | some 3 => .after
  | _ => .apart

def connectsOn (j : Joining) : Bool :=
  j = .dual || j = .after

def connectsBack (j : Joining) : Bool :=
  j = .dual || j = .before

end Joining

end NetWatch.Text
