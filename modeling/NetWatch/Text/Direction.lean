/-
NetWatch.Text.Direction — the direction in which characters are written.

The Unicode property Bidi_Class tells letters written from left to right from
those written from right to left, and says how digits and punctuation behave
between them. `isOrderly` is the rule for the labels of a domain name that has
letters of both directions: a label reads the same wherever it is shown.
-/
import NetWatch.Text.RangeTable

namespace NetWatch.Text

/-- How a character behaves among letters of both directions. -/
inductive Direction where
  /-- A letter written from left to right. -/
  | leftToRight
  /-- A letter written from right to left. -/
  | rightToLeft
  /-- A letter of Arabic or a related script. -/
  | arabicLetter
  | arabicNumber
  | number
  /-- A plus or minus sign. -/
  | numberSign
  /-- A comma, point, colon or solidus. -/
  | numberSeparator
  /-- A sign that goes with a number, such as that of a currency. -/
  | numberTerminator
  | neutral
  /-- A control or format character. -/
  | boundary
  /-- A mark, which goes along with the character before it. -/
  | mark
  deriving DecidableEq, Repr

namespace Direction

/-- The characters that are not letters written from left to right. -/
def table : ValueTable := .ofText [
  "33 1 7 1 2 6 1 4 7 1 0 4 1 0 5 1 0 4 1 1 5 1 9 3 1 0 5 1 37 7 27 3 7 1 0 8 34 0 7 1 3 6",
  "1 8 7 2 1 6 5 33 7 32 0 7 450 1 7 8 13 7 3 27 7 2 16 7 1 111 9 6 0 7 129 0 7 141 6 9 257 4 7",
  "1 0 6 2 44 9 1 0 0 1 0 9 1 0 0 1 1 9 1 0 0 1 1 9 1 0 0 1 0 9 9 36 0 18 1 7 1 0 1 1 1 6 1 0 1",
  "1 0 5 1 0 1 1 1 7 1 10 9 1 47 1 1 20 9 1 9 2 1 0 6 1 1 2 1 2 1 1 0 9 1 100 1 1 6 9 2 0 7",
  "1 5 9 1 1 1 1 1 9 1 0 7 1 3 9 1 1 1 1 9 3 1 22 1 1 0 9 1 29 1 1 26 9 3 88 1 1 10 9 1 0 1",
  "15 42 0 1 8 9 1 1 0 1 3 7 1 0 0 3 0 9 1 23 0 1 3 9 1 0 0 1 8 9 1 0 0 1 2 9 1 0 0 1 4 9",
  "3 40 0 1 2 9 3 0 0 2 46 1 10 7 9 1 41 1 1 56 9 56 0 9 2 0 9 5 7 9 5 0 9 4 6 9 11 1 9 30 0 9",
  "59 0 9 5 3 9 9 0 9 21 1 9 15 1 6 8 0 6 3 4 9 58 0 9 5 16 9 31 1 9 4 0 9 12 1 9 58 0 9 5 7 9",
  "5 0 9 21 1 9 14 0 6 9 7 9 59 0 9 3 0 9 2 3 9 9 9 9 12 1 9 31 0 9 62 0 9 13 0 9 38 5 7 1 0 6",
  "1 0 7 6 0 9 4 0 9 56 0 9 2 2 9 6 16 9 12 1 9 21 6 7 3 0 9 59 0 9 16 1 9 21 1 9 29 1 9 58 1 9",
  "5 3 9 9 0 9 21 1 9 30 0 9 73 0 9 8 4 9 91 0 9 3 6 9 5 0 6 8 7 9 99 0 9 3 8 9 12 6 9 74 1 9",
  "28 0 9 2 0 9 2 0 9 1 3 7 52 13 9 2 4 9 2 1 9 6 47 9 10 0 9 103 3 9 2 5 9 2 1 9 3 1 9 26 1 9",
  "5 2 9 17 3 9 14 0 9 3 1 9 7 0 9 16 0 9 704 2 9 49 9 7 103 0 7 667 1 7 118 2 9 30 1 9 31 1 9",
  "31 1 9 68 6 9 9 0 9 3 10 9 8 0 6 2 0 9 19 26 7 123 1 9 35 0 9 119 2 9 5 1 9 10 0 9 7 2 9",
  "5 5 7 153 33 7 24 1 9 3 0 9 59 0 9 2 8 9 2 0 9 3 7 9 7 12 9 49 83 9 49 0 9 2 4 9 2 0 9 6 0 9",
  "41 8 9 13 1 9 33 3 9 3 1 9 2 2 9 57 0 9 2 1 9 4 0 9 2 2 9 59 7 9 3 1 9 153 2 9 2 12 9 2 6 9",
  "5 0 9 7 0 9 4 1 9 199 63 9 525 1 8 3 23 7 9 2 6 3 14 7 1 0 5 1 25 7 66 32 6 16 32 9 20 37 7",
  "5 0 6 12 19 7 61 135 7 1 0 4 1 0 6 1 289 7 70 25 7 2 789 7 2 338 7 257 767 7 230 5 7 5 2 9",
  "8 6 7 128 0 9 97 31 9 1 516 7 4 24 7 10 3 9 3 0 7 7 0 7 6 2 7 90 1 9 6 0 7 91 0 7 197 35 7",
  "7133 63 7 22161 54 7 327 2 7 96 3 9 1 0 7 1 9 9 1 1 7 31 1 9 81 1 9 15 33 7 103 0 7 122 0 9",
  "4 0 9 5 0 9 26 1 9 2 3 7 1 0 9 12 1 6 59 3 7 77 1 9 27 17 9 14 0 9 39 7 9 26 10 9 47 2 9",
  "49 0 9 3 3 9 3 1 9 40 0 9 68 5 9 3 1 9 3 1 9 13 0 9 9 0 9 48 0 9 52 0 9 2 2 9 3 1 9 6 1 9",
  "2 0 9 43 1 9 9 0 9 116 1 7 122 0 9 3 0 9 5 0 9 20273 0 9 148 16 1 380 193 7 33 15 9 22 1 7",
  "45 0 1 654 0 7 63 76 7 4 16 7 93 0 9 227 0 9 1 26 3 123 4 9 1158 283 0 4 0 7 1 224 0 1 14 9",
  "1 37 0 3 7 9 1 164 0 1 1 9 5 74 0 4 6 7 1 447 0 1 35 1 1 3 9 9 334 2 2 41 0 2 1 9 1 4 0",
  "76 2 9 1 39 0 9 21 1 1 10 9 1 8 1 23 17 0 1 3 9 1 112 0 11 0 9 55 14 9 12 19 7 11 0 9 3 1 9",
  "11 2 9 50 3 9 3 1 9 8 0 9 62 2 9 37 4 9 2 7 9 63 0 9 13 1 9 53 8 9 11 3 9 3 0 9 96 2 9 3 0 9",
  "2 1 9 7 0 9 3 0 9 158 0 9 4 7 9 22 1 9 58 1 9 4 0 9 38 14 9 196 7 9 3 2 9 2 0 9 24 0 9",
  "85 5 9 2 0 9 5 1 9 2 1 9 239 3 9 7 1 9 2 1 9 28 1 9 86 7 9 3 0 9 2 1 9 32 12 7 63 0 9 2 0 9",
  "3 5 9 2 0 9 102 2 9 3 3 9 2 4 9 260 8 9 2 1 9 257 1 9 2 0 9 5 0 9 145 7 9 5 0 9 33 5 9 3 1 9",
  "41 5 9 3 3 9 9 0 9 10 5 9 3 2 9 47 12 9 2 1 9 407 13 9 85 21 9 3 6 9 2 1 9 2 1 9 123 20 9",
  "2 0 9 73 1 9 4 0 9 2 0 9 348 1 9 12 1 9 53 4 9 6 0 9 2 0 9 147 7 7 1 3 6 1 16 7 5199 0 9",
  "7 14 9 13979 4 9 60 6 9 1049 0 9 64 3 9 80 0 7 2 0 9 19641 1 9 4706 70 9 545 2 9 18 7 9",
  "3 6 9 31 3 9 60 88 7 1 2 9 1 0 7 187 86 7 1706 54 9 5 49 9 9 0 9 15 0 9 23 20 9 1361 143 9",
  "161 6 9 376 0 9 62 3 9 16 0 6 493 3 9 785 207 0 1 6 9 76 33 0 1 6 9 1 20 0 786 204 1",
  "435 575 7 62 2 7 62 0 7 179 2410 7"]

def ofChar (c : Char) : Direction :=
  match table.get? c.toNat with
  | some 0 => .rightToLeft
  | some 1 => .arabicLetter
  | some 2 => .arabicNumber
  | some 3 => .number
  | some 4 => .numberSign
  | some 5 => .numberSeparator
  | some 6 => .numberTerminator
  | some 7 => .neutral
  | some 8 => .boundary
  | some 9 => .mark
  | _ => .leftToRight

/-- Whether the character makes a text one that is partly written from right to left. -/
def isRightward (d : Direction) : Bool :=
  d = .rightToLeft || d = .arabicLetter || d = .arabicNumber

/-- Whether the character is at home in labels of either direction. -/
def isShared (d : Direction) : Bool :=
  [.number, .numberSign, .numberSeparator, .numberTerminator, .neutral, .boundary, .mark].contains d

/-- The direction of the last character that is not a mark. -/
def last? (ds : List Direction) : Option Direction :=
  (ds.reverse.dropWhile (· = .mark)).head?

/-- The rule for a label that starts from the left: no letters or numbers of the other
direction, and a letter or number at the end. -/
def isOrderlyFromLeft (ds : List Direction) : Bool :=
  ds.all (fun d => d = .leftToRight || isShared d)
    && (last? ds = some .leftToRight || last? ds = some .number)

/-- The rule for a label that starts from the right: no letters of the other direction, a
letter or number at the end, and numbers of one kind only. -/
def isOrderlyFromRight (ds : List Direction) : Bool :=
  ds.all (fun d => isRightward d || isShared d)
    && ([.rightToLeft, .arabicLetter, .number, .arabicNumber].any fun d => last? ds = some d)
    && !(ds.contains .number && ds.contains .arabicNumber)

/-- The rule for a label among labels of both directions. -/
def isOrderly (cs : List Char) : Bool :=
  match cs.map ofChar with
  | [] => true
  | .leftToRight :: rest => isOrderlyFromLeft (.leftToRight :: rest)
  | .rightToLeft :: rest => isOrderlyFromRight (.rightToLeft :: rest)
  | .arabicLetter :: rest => isOrderlyFromRight (.arabicLetter :: rest)
  | _ => false

end Direction

end NetWatch.Text
