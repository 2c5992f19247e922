/-
NetWatch.Text.Mark — characters that attach to the one before them.

These are the characters of the general categories Mn, Mc and Me, as far as
they may stand in a domain name.
-/
import NetWatch.Text.RangeTable

namespace NetWatch.Text

def markTable : RangeTable := .ofText [
  "768 111 276 6 264 44 2 0 2 1 2 1 2 0 73 10 49 20 17 0 102 6 3 5 3 1 2 3 36 0 31 26 92 10",
  "59 8 10 0 25 3 2 8 2 2 2 4 44 2 61 7 43 57 55 2 2 17 2 6 11 1 30 2 57 0 2 15 10 0 11 1 27 5",
  "57 21 31 1 4 0 12 2 57 0 2 15 21 1 23 9 57 0 2 25 11 1 31 0 60 15 10 0 41 4 56 0 2 24 12 1",
  "30 2 57 0 2 24 12 1 16 16 56 1 2 15 10 0 11 1 30 2 71 21 19 1 62 0 3 6 13 7 99 0 3 8 12 6",
  "74 1 28 0 2 0 2 0 5 1 50 19 2 1 6 47 10 0 101 19 24 3 5 2 2 2 3 6 4 3 14 11 2 0 11 3 704 2",
  "947 3 29 2 30 1 31 1 67 29 10 0 168 1 35 0 119 27 220 4 58 42 49 84 48 16 39 8 13 2 31 12",
  "57 13 49 19 153 2 2 20 5 0 7 0 3 2 199 63 721 32 3071 2 142 0 97 31 555 5 106 1 30165 3 2 9",
  "33 1 81 1 273 0 4 0 5 0 24 4 5 0 84 1 51 17 27 17 14 0 39 7 26 12 45 3 48 13 37 0 68 13 13 0",
  "9 1 46 2 51 0 2 2 3 1 6 1 2 0 42 4 6 1 237 7 2 1 20273 0 770 15 974 0 227 0 150 4 1671 14",
  "41 7 166 1 574 3 388 1 81 2 71 10 50 3 123 2 54 14 42 0 3 1 11 3 46 10 8 0 62 2 37 13 17 1",
  "45 0 13 2 49 13 9 3 2 1 93 11 7 0 3 0 158 11 22 3 56 1 2 15 10 0 11 18 193 17 24 0 82 19",
  "236 17 28 1 83 16 107 12 102 14 257 14 246 14 2 0 2 1 142 15 4 0 29 9 41 6 2 3 9 0 10 10",
  "47 15 406 16 83 36 123 20 2 0 67 13 348 3 10 1 2 0 49 14 5374 0 7 14 13979 4 60 6 1049 0",
  "2 65 82 13 19628 1 4706 70 543 4 4 21 3 6 31 3 149 2 1980 54 5 49 9 0 15 0 23 20 1361 143",
  "161 6 376 0 62 3 509 3 993 6 110 6"]

/-- Whether the character attaches to the one before it. -/
def isMark (c : Char) : Bool :=
  0x300 ≤ c.toNat && markTable.contains c.toNat

end NetWatch.Text
