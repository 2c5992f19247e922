/-
NetWatch.Text.Normal — one spelling for texts that look the same.

A letter with an accent can be one character or two, and several marks on one
letter can stand in more than one order. Unicode's Normalization Form C picks
one spelling: every character is taken apart into letter and marks, the marks
after a letter are sorted by their combining class, and what can be put together
again is put together. Syllables of Hangul are taken apart and put together by
arithmetic, all else by table.

The table holds the compositions whose result may stand in a domain name, where
capital letters and compatibility characters have been replaced beforehand.
-/
import NetWatch.Text.RangeTable

namespace NetWatch.Text

/-! ## Tables -/

/-- The combining classes other than 0. -/
def combiningTable : ValueTable := .ofText [
  "768 20 230 1 0 232 1 3 220 1 0 232 1 0 216 1 4 220 1 1 202 1 3 220 1 1 202 1 10 220 1 4 1",
  "1 3 220 1 9 230 1 2 220 1 2 230 1 1 220 2 2 230 1 3 220 1 0 230 1 0 232 1 1 220 1 0 230",
  "1 0 233 1 1 234 1 0 233 1 1 234 1 0 233 1 12 230 276 4 230 266 0 220 1 3 230 1 0 220 1 2 230",
  "1 0 222 1 0 220 1 5 230 1 5 220 1 1 230 1 0 220 1 1 230 1 0 222 1 0 228 1 0 230 1 0 10",
  "1 0 11 1 0 12 1 0 13 1 0 14 1 0 15 1 0 16 1 0 17 1 0 18 1 1 19 1 0 20 1 0 21 1 0 22 2 0 23",
  "2 0 24 1 0 25 2 0 230 1 0 220 2 0 18 73 7 230 1 0 30 1 0 31 1 0 32 49 0 27 1 0 28 1 0 29",
  "1 0 30 1 0 31 1 0 32 1 0 33 1 0 34 1 1 230 1 1 220 1 4 230 1 0 220 1 1 230 1 0 220 17 0 35",
  "102 6 230 3 3 230 1 0 220 1 0 230 3 1 230 2 0 220 1 1 230 1 0 220 36 0 36 31 0 230 1 0 220",
  "1 1 230 1 0 220 1 1 230 1 2 220 1 0 230 1 1 220 1 0 230 1 0 220 1 2 230 1 0 220 1 0 230",
  "1 0 220 1 0 230 1 0 220 1 0 230 1 0 220 1 1 230 161 6 230 1 0 220 1 0 230 10 0 220 25 3 230",
  "2 8 230 2 2 230 2 4 230 44 2 220 61 0 230 1 2 220 1 3 230 43 4 230 1 4 220 1 13 230 2 0 220",
  "1 1 230 1 0 220 1 1 230 1 0 220 1 2 230 1 2 220 1 0 27 1 0 28 1 0 29 1 2 230 1 0 220 1 1 230",
  "1 1 220 1 4 230 61 0 7 17 0 9 4 0 230 1 0 220 1 1 230 104 0 7 17 0 9 49 0 230 62 0 7 17 0 9",
  "111 0 7 17 0 9 111 0 7 17 0 9 128 0 9 111 0 7 17 0 9 8 0 84 1 0 91 102 0 7 17 0 9 110 1 9",
  "17 0 9 125 0 9 110 1 103 1 0 9 14 3 107 109 1 118 1 0 9 14 3 122 77 1 220 28 0 220 2 0 220",
  "2 0 216 56 0 129 1 0 130 2 0 132 6 3 130 3 0 130 2 1 230 1 0 9 2 1 230 63 0 220 113 0 7",
  "2 1 9 83 0 220 720 2 230 949 1 9 31 0 9 158 0 9 11 0 230 204 0 228 144 0 222 1 0 230 1 0 220",
  "220 0 230 1 0 220 72 0 9 21 7 230 3 0 220 49 4 230 1 5 220 1 1 230 1 0 220 2 1 220 1 1 230",
  "1 1 220 1 4 230 1 0 220 1 3 230 102 0 7 16 0 9 39 0 230 1 0 220 1 6 230 55 1 9 59 0 7 12 1 9",
  "68 0 7 153 2 230 2 0 1 1 4 220 1 1 230 1 3 220 1 0 230 2 6 1 5 0 220 7 0 230 4 1 230",
  "199 1 230 1 0 220 1 6 230 1 0 220 1 1 230 1 0 234 1 0 214 1 0 220 1 0 202 1 36 230 1 0 232",
  "1 1 228 1 0 220 1 0 218 1 0 230 1 0 233 1 0 220 1 0 230 1 0 220 721 1 230 1 1 1 1 3 230",
  "1 2 1 1 1 230 5 0 230 4 1 1 1 0 230 1 0 220 1 0 230 1 1 1 1 3 220 1 0 230 3071 2 230 142 0 9",
  "97 31 230 555 0 218 1 0 228 1 0 232 1 0 222 1 1 224 106 1 8 30165 0 230 5 9 230 33 1 230",
  "81 1 230 277 0 9 38 0 9 152 0 9 28 17 230 58 2 220 38 0 9 96 0 7 13 0 9 240 0 230 2 1 230",
  "1 0 220 3 1 230 6 1 230 2 0 230 53 0 9 247 0 9 20273 0 26 770 6 230 1 6 220 1 1 230",
  "974 0 220 227 0 220 150 4 230 1683 0 220 2 0 230 41 0 230 1 0 1 1 0 220 5 0 9 166 0 230",
  "1 0 220 574 3 230 388 1 230 81 2 220 71 1 220 1 2 230 1 0 220 1 0 230 1 3 220 50 0 230",
  "1 0 220 1 0 230 1 0 220 193 0 9 42 0 9 15 0 9 58 0 9 1 0 7 70 2 230 49 1 9 63 0 7 77 0 9",
  "10 0 7 107 0 9 1 0 7 179 0 7 1 0 9 81 1 7 17 0 9 25 14 230 206 0 9 4 0 7 24 0 230 100 0 9",
  "1 0 7 252 0 9 1 0 7 127 0 9 119 0 9 1 0 7 116 0 9 270 0 9 1 0 7 259 1 9 5 0 7 157 0 9 84 0 9",
  "19 0 9 82 0 9 422 0 9 259 0 7 2 1 9 82 0 9 426 1 9 19374 4 1 60 6 230 1210 1 6 19629 0 1",
  "5319 1 216 1 2 1 4 0 226 1 4 216 9 7 220 3 4 230 1 1 220 31 3 230 149 2 230 3516 143 230",
  "161 6 230 376 0 230 62 3 230 509 1 232 1 0 220 1 0 230 993 6 220 110 5 230 1 0 7"]

/-- The combining class, by which marks on one letter are sorted; letters have class 0. -/
def combiningClass (c : Char) : Nat :=
  if c.toNat < 0x300 then 0 else (combiningTable.get? c.toNat).getD 0

/-- A character that is made of two others. -/
structure Composite where
  whole : Nat
  first : Nat
  second : Nat
  deriving DecidableEq, Repr

/-- Reads composites, each as its distance from the one before it and its two parts. -/
def Composite.ofGaps : Nat → List Nat → List Composite
  | prev, gap :: first :: second :: rest => ⟨prev + gap, first, second⟩ :: ofGaps (prev + gap) rest
  | _, _ => []

/-- The characters made of two others. -/
def composites : List Composite := Composite.ofGaps 0 <| numbers [
  "224 97 768 1 97 769 1 97 770 1 97 771 1 97 776 1 97 778 2 99 807 1 101 768 1 101 769",
  "1 101 770 1 101 776 1 105 768 1 105 769 1 105 770 1 105 776 2 110 771 1 111 768 1 111 769",
  "1 111 770 1 111 771 1 111 776 3 117 768 1 117 769 1 117 770 1 117 776 1 121 769 2 121 776",
  "2 97 772 2 97 774 2 97 808 2 99 769 2 99 770 2 99 775 2 99 780 2 100 780 4 101 772 2 101 774",
  "2 101 775 2 101 808 2 101 780 2 103 770 2 103 774 2 103 775 2 103 807 2 104 770 4 105 771",
  "2 105 772 2 105 774 2 105 808 6 106 770 2 107 807 3 108 769 2 108 807 2 108 780 6 110 769",
  "2 110 807 2 110 780 5 111 772 2 111 774 2 111 779 4 114 769 2 114 807 2 114 780 2 115 769",
  "2 115 770 2 115 807 2 115 780 2 116 807 2 116 780 4 117 771 2 117 772 2 117 774 2 117 778",
  "2 117 779 2 117 808 2 119 770 2 121 770 3 122 769 2 122 775 2 122 780 35 111 795 15 117 795",
  "30 97 780 2 105 780 2 111 780 2 117 780 2 252 772 2 252 769 2 252 780 2 252 768 3 228 772",
  "2 551 772 2 230 772 4 103 780 2 107 780 2 111 808 2 491 772 2 658 780 1 106 780 5 103 769",
  "4 110 768 2 229 769 2 230 769 2 248 769 2 97 783 2 97 785 2 101 783 2 101 785 2 105 783",
  "2 105 785 2 111 783 2 111 785 2 114 783 2 114 785 2 117 783 2 117 785 2 115 806 2 116 806",
  "4 104 780 8 97 775 2 101 807 2 246 772 2 245 772 2 111 775 2 559 772 2 121 772 349 970 769",
  "28 945 769 1 949 769 1 951 769 1 953 769 1 971 769 26 953 776 1 965 776 1 959 769 1 965 769",
  "1 969 769 107 1080 774 23 1077 768 1 1077 776 2 1075 769 4 1110 776 5 1082 769 1 1080 768",
  "1 1091 774 25 1141 783 75 1078 774 15 1072 774 2 1072 776 4 1077 774 4 1241 776 2 1078 776",
  "2 1079 776 4 1080 772 2 1080 776 2 1086 776 4 1257 776 2 1101 776 2 1091 772 2 1091 776",
  "2 1091 779 2 1095 776 4 1099 776 297 1575 1619 1 1575 1620 1 1608 1620 1 1575 1621",
  "1 1610 1620 154 1749 1620 2 1729 1620 17 1746 1620 598 2344 2364 8 2352 2364 3 2355 2364",
  "151 2503 2494 1 2503 2519 380 2887 2902 3 2887 2878 1 2887 2903 72 2962 3031 54 3014 3006",
  "1 3015 3006 1 3014 3031 124 3142 3158 120 3263 3285 7 3270 3285 1 3270 3286 2 3270 3266",
  "1 3274 3285 127 3398 3390 1 3399 3390 1 3398 3415 142 3545 3530 2 3545 3535 1 3548 3530",
  "1 3545 3551 584 4133 4142 2784 6917 6965 2 6919 6965 2 6921 6965 2 6923 6965 2 6925 6965",
  "4 6929 6965 41 6970 6965 2 6972 6965 3 6974 6965 1 6975 6965 2 6978 6965 702 97 805 2 98 775",
  "2 98 803 2 98 817 2 231 769 2 100 775 2 100 803 2 100 817 2 100 807 2 100 813 2 275 768",
  "2 275 769 2 101 813 2 101 816 2 553 774 2 102 775 2 103 772 2 104 775 2 104 803 2 104 776",
  "2 104 807 2 104 814 2 105 816 2 239 769 2 107 769 2 107 803 2 107 817 2 108 803 2 7735 772",
  "2 108 817 2 108 813 2 109 769 2 109 775 2 109 803 2 110 775 2 110 803 2 110 817 2 110 813",
  "2 245 769 2 245 776 2 333 768 2 333 769 2 112 769 2 112 775 2 114 775 2 114 803 2 7771 772",
  "2 114 817 2 115 775 2 115 803 2 347 775 2 353 775 2 7779 775 2 116 775 2 116 803 2 116 817",
  "2 116 813 2 117 804 2 117 816 2 117 813 2 361 769 2 363 776 2 118 771 2 118 803 2 119 768",
  "2 119 769 2 119 776 2 119 775 2 119 803 2 120 775 2 120 776 2 121 775 2 122 770 2 122 803",
  "2 122 817 1 104 817 1 116 776 1 119 778 1 121 778 8 97 803 2 97 777 2 226 769 2 226 768",
  "2 226 777 2 226 771 2 7841 770 2 259 769 2 259 768 2 259 777 2 259 771 2 7841 774 2 101 803",
  "2 101 777 2 101 771 2 234 769 2 234 768 2 234 777 2 234 771 2 7865 770 2 105 777 2 105 803",
  "2 111 803 2 111 777 2 244 769 2 244 768 2 244 777 2 244 771 2 7885 770 2 417 769 2 417 768",
  "2 417 777 2 417 771 2 417 803 2 117 803 2 117 777 2 432 769 2 432 768 2 432 777 2 432 771",
  "2 432 803 2 121 768 2 121 803 2 121 777 2 121 771 7 945 787 1 945 788 1 7936 768 1 7937 768",
  "1 7936 769 1 7937 769 1 7936 834 1 7937 834 9 949 787 1 949 788 1 7952 768 1 7953 768",
  "1 7952 769 1 7953 769 11 951 787 1 951 788 1 7968 768 1 7969 768 1 7968 769 1 7969 769",
  "1 7968 834 1 7969 834 9 953 787 1 953 788 1 7984 768 1 7985 768 1 7984 769 1 7985 769",
  "1 7984 834 1 7985 834 9 959 787 1 959 788 1 8000 768 1 8001 768 1 8000 769 1 8001 769",
  "11 965 787 1 965 788 1 8016 768 1 8017 768 1 8016 769 1 8017 769 1 8016 834 1 8017 834",
  "9 969 787 1 969 788 1 8032 768 1 8033 768 1 8032 769 1 8033 769 1 8032 834 1 8033 834",
  "9 945 768 2 949 768 2 951 768 2 953 768 2 959 768 2 965 768 2 969 768 52 945 774 1 945 772",
  "5 945 834 16 951 834 10 953 774 1 953 772 1 970 768 4 953 834 1 970 834 9 965 774 1 965 772",
  "1 971 768 2 961 787 1 961 788 1 965 834 1 971 834 15 969 834 420 8592 824 1 8594 824",
  "19 8596 824 31 8656 824 1 8660 824 1 8658 824 53 8707 824 5 8712 824 3 8715 824 24 8739 824",
  "2 8741 824 27 8764 824 3 8771 824 3 8773 824 2 8776 824 23 61 824 2 8801 824 11 8781 824",
  "1 60 824 1 62 824 1 8804 824 1 8805 824 3 8818 824 1 8819 824 3 8822 824 1 8823 824",
  "7 8826 824 1 8827 824 3 8834 824 1 8835 824 3 8838 824 1 8839 824 35 8866 824 1 8872 824",
  "1 8873 824 1 8875 824 49 8828 824 1 8829 824 1 8849 824 1 8850 824 7 8882 824 1 8883 824",
  "1 8884 824 1 8885 824 3423 12363 12441 2 12365 12441 2 12367 12441 2 12369 12441",
  "2 12371 12441 2 12373 12441 2 12375 12441 2 12377 12441 2 12379 12441 2 12381 12441",
  "2 12383 12441 2 12385 12441 3 12388 12441 2 12390 12441 2 12392 12441 7 12399 12441",
  "1 12399 12442 2 12402 12441 1 12402 12442 2 12405 12441 1 12405 12442 2 12408 12441",
  "1 12408 12442 2 12411 12441 1 12411 12442 23 12358 12441 10 12445 12441 14 12459 12441",
  "2 12461 12441 2 12463 12441 2 12465 12441 2 12467 12441 2 12469 12441 2 12471 12441",
  "2 12473 12441 2 12475 12441 2 12477 12441 2 12479 12441 2 12481 12441 3 12484 12441",
  "2 12486 12441 2 12488 12441 7 12495 12441 1 12495 12442 2 12498 12441 1 12498 12442",
  "2 12501 12441 1 12501 12442 2 12504 12441 1 12504 12442 2 12507 12441 1 12507 12442",
  "23 12454 12441 3 12527 12441 1 12528 12441 1 12529 12441 1 12530 12441 4 12541 12441",
  "57244 69785 69818 2 69787 69818 15 69797 69818 131 69937 69927 1 69938 69927 540 70471 70462",
  "1 70471 70487 367 70841 70842 1 70841 70832 2 70841 70845 252 71096 71087 1 71097 71087",
  "893 71989 71984"]

/-! ## Hangul -/

namespace Hangul

/-- The code point of the first syllable. -/
def base : Nat := 0xAC00

/-- The code point of the first leading consonant. -/
def leadBase : Nat := 0x1100

/-- The code point of the first vowel. -/
def vowelBase : Nat := 0x1161

/-- The code point before the first trailing consonant. -/
def trailBase : Nat := 0x11A7

/-- How many leading consonants there are. -/
def leads : Nat := 19

/-- How many vowels there are. -/
def vowels : Nat := 21

/-- How many trailing consonants there are, with one more for none at all. -/
def trails : Nat := 28

/-- The letters of a syllable. -/
def letters? (n : Nat) : Option (List Nat) :=
  if base ≤ n ∧ n < base + leads * vowels * trails then
    let i := n - base
    let trail := if i % trails = 0 then [] else [trailBase + i % trails]
    some ([leadBase + i / (vowels * trails), vowelBase + i / trails % vowels] ++ trail)
  else none

/-- The syllable that a letter and the one before it make, or a syllable and a letter after it. -/
def join? (a b : Nat) : Option Nat :=
  if leadBase ≤ a ∧ a < leadBase + leads ∧ vowelBase ≤ b ∧ b < vowelBase + vowels then
    some (base + ((a - leadBase) * vowels + (b - vowelBase)) * trails)
  else if base ≤ a ∧ a < base + leads * vowels * trails ∧ (a - base) % trails = 0
      ∧ trailBase < b ∧ b < trailBase + trails then
    some (a + (b - trailBase))
  else none

end Hangul

/-! ## Normalization Form C -/

/-- The parts of a code point, taken apart at most `depth` times. -/
def parts : Nat → Nat → List Nat
  | 0, n => [n]
  | depth + 1, n =>
    match Hangul.letters? n with
    | some ls => ls
    | none =>
      match composites.find? (·.whole == n) with
      | some c => parts depth c.first ++ [c.second]
      | none => [n]

/-- The most marks that one character of the table carries, with room to spare. -/
def partDepth : Nat := 4

/-- The character taken apart. -/
def decomposed (c : Char) : List Char :=
  if c.toNat < 0xC0 then [c] else (parts partDepth c.toNat).map Char.ofNat

/-- Puts a mark in its place among the marks at the front, before those of its own class, which
are later in the text. -/
def insertMark (c : Char) : List Char → List Char
  | [] => [c]
  | d :: rest =>
    if combiningClass d = 0 ∨ combiningClass c ≤ combiningClass d then c :: d :: rest
    else d :: insertMark c rest

/-- Sorts each run of marks by combining class; marks of one class keep their order. -/
def sortMarks : List Char → List Char
  | [] => []
  | c :: rest =>
    if combiningClass c = 0 then c :: sortMarks rest else insertMark c (sortMarks rest)

/-- The character that two others make. -/
def composed? (a b : Char) : Option Char :=
  match Hangul.join? a.toNat b.toNat with
  | some n => some (Char.ofNat n)
  | none =>
    (composites.find? fun c => c.first == a.toNat && c.second == b.toNat).map fun c =>
      Char.ofNat c.whole

/-- Puts a letter together with what follows it. A mark can be reached past marks of lower
class that stay on their own (`skipped`, the newest first); any other character only directly. -/
def compose (letter : Char) (skipped : List Char) : List Char → List Char
  | [] => letter :: skipped.reverse
  | c :: rest =>
    let reachable := match skipped with
      | [] => true
      | s :: _ => combiningClass s < combiningClass c
    match if reachable then composed? letter c else none with
    | some whole => compose whole skipped rest
    | none =>
      if combiningClass c = 0 then letter :: skipped.reverse ++ compose c [] rest
      else compose letter (c :: skipped) rest

/-- The text in Normalization Form C. -/
def normalized (cs : List Char) : List Char :=
  let marks := (sortMarks (cs.flatMap decomposed)).takeWhile fun c => combiningClass c ≠ 0
  match (sortMarks (cs.flatMap decomposed)).dropWhile fun c => combiningClass c ≠ 0 with
  | [] => marks
  | letter :: rest => marks ++ compose letter [] rest

end NetWatch.Text
