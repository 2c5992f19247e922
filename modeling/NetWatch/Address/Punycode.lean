/-
NetWatch.Address.Punycode — a label of any script in the characters of ASCII.

The ASCII characters of the label come first, closed by a hyphen if there are
any. The numbers that follow say where the others go. All pairs of a code point
and a place in the label are thought of in order, the lower code point first;
each number tells how many pairs to pass over until the next one that is meant.
The digits of a number run from `a` to `z` and on from `0` to `9`, the lowest
first, and a digit below the threshold of its place ends the number. The
thresholds adapt to the size of the numbers before.
-/

namespace NetWatch.Punycode

/-! ## Digits and thresholds -/

/-- The character of a digit below 36. -/
def digitChar (d : Nat) : Char :=
  if d < 26 then Char.ofNat (97 + d) else Char.ofNat (22 + d)

def digit? (c : Char) : Option Nat :=
  if 'a' ≤ c ∧ c ≤ 'z' then some (c.toNat - 97)
  else if 'A' ≤ c ∧ c ≤ 'Z' then some (c.toNat - 65)
  else if '0' ≤ c ∧ c ≤ '9' then some (c.toNat - 22)
  else none

/-- The threshold of a place, counted in steps of 36 from 36 on. -/
def threshold (place bias : Nat) : Nat :=
  min 26 (max 1 (place - bias))

theorem threshold_pos (place bias : Nat) : 1 ≤ threshold place bias := by
  unfold threshold
  omega

theorem threshold_le (place bias : Nat) : threshold place bias ≤ 26 := by
  unfold threshold
  omega

/-- Divides by 35 until the number is at most 455, counting 36 for each time. -/
def scaled (count n : Nat) : Nat × Nat :=
  if 455 < n then scaled (count + 36) (n / 35) else (count, n)
termination_by n
decreasing_by exact Nat.div_lt_self (by omega) (by omega)

/-- The bias after a number, when the label has `size` characters so far. -/
def adapted (isFirst : Bool) (n size : Nat) : Nat :=
  let half := if isFirst then n / 700 else n / 2
  let (count, n) := scaled 0 (half + half / size)
  count + 36 * n / (n + 38)

/-! ## Writing -/

def writeNumber (bias place n : Nat) : List Char :=
  let t := threshold place bias
  if n < t then [digitChar n]
  else digitChar (t + (n - t) % (36 - t)) :: writeNumber bias (place + 36) ((n - t) / (36 - t))
termination_by n
decreasing_by
  have ht := threshold_pos place bias
  have hle := Nat.div_le_self (n - threshold place bias) (36 - threshold place bias)
  omega

/-- How far the writing of a label has come. -/
structure Progress where
  /-- The pairs passed over since the last number. -/
  passed : Nat
  bias : Nat
  /-- The characters that have been written. -/
  done : Nat

/-- Writes the places of one code point, given how many ASCII characters the label has. -/
def writePlaces (basic code : Nat) (p : Progress) : List Char → List Char × Progress
  | [] => ([], p)
  | c :: rest =>
    if c.toNat < code then writePlaces basic code { p with passed := p.passed + 1 } rest
    else if c.toNat = code then
      let r := writePlaces basic code
        ⟨0, adapted (p.done == basic) p.passed (p.done + 1), p.done + 1⟩ rest
      (writeNumber p.bias 36 p.passed ++ r.1, r.2)
    else writePlaces basic code p rest

/-- Writes the places of some code points in rising order, none of them below `next`. -/
def writeCodes (label : List Char) (basic next : Nat) (p : Progress) : List Nat → List Char
  | [] => []
  | code :: rest =>
    let r := writePlaces basic code
      { p with passed := p.passed + (code - next) * (p.done + 1) } label
    r.1 ++ writeCodes label basic (code + 1) { r.2 with passed := r.2.passed + 1 } rest

/-- Whether a character is one of ASCII. -/
def isBasic (c : Char) : Bool :=
  c.toNat < 0x80

def encode (label : List Char) : List Char :=
  let basic := label.filter isBasic
  let codes := (((label.filter (!isBasic ·)).map Char.toNat).mergeSort (· ≤ ·)).eraseDups
  (if basic = [] then [] else basic ++ ['-'])
    ++ writeCodes label basic.length 0x80 ⟨0, 72, basic.length⟩ codes

/-! ## Reading -/

/-- Reads the digits of a number from a place on, where a digit weighs `weight`. -/
def readNumber (bias : Nat) : Nat → Nat → Nat → List Char → Option (Nat × List Char)
  | _, _, _, [] => none
  | place, weight, n, c :: rest =>
    match digit? c with
    | none => none
    | some d =>
      let t := threshold place bias
      if d < t then some (n + d * weight, rest)
      else readNumber bias (place + 36) (weight * (36 - t)) (n + d * weight) rest

theorem length_lt_of_readNumber {bias place weight n m : Nat} {cs rest : List Char}
    (h : readNumber bias place weight n cs = some (m, rest)) : rest.length < cs.length := by
  induction cs generalizing place weight n with
  | nil => simp [readNumber] at h
  | cons c cs ih =>
    simp only [readNumber] at h
    split at h
    · simp at h
    · split at h
      · simp only [Option.some.injEq, Prod.mk.injEq] at h
        simp [← h.2]
      · have := ih h
        simp only [List.length_cons]
        omega

/-- Reads numbers and puts a character into the label for each, the next one no lower than the
pair of `code` and `place`. -/
def readCodes (bias code place : Nat) (label : List Char) (cs : List Char) : Option (List Char) :=
  if cs = [] then some label
  else
    match _h : readNumber bias 36 1 place cs with
    | none => none
    | some (n, rest) =>
      let size := label.length + 1
      let code := code + n / size
      if code.isValidChar then
        readCodes (adapted (place == 0) (n - place) size) code (n % size + 1)
          (label.insertIdx (n % size) (Char.ofNat code)) rest
      else none
termination_by cs.length
decreasing_by exact length_lt_of_readNumber _h

/-- The label whose ASCII form is given. -/
def decode? (cs : List Char) : Option (List Char) :=
  let digits := (cs.reverse.takeWhile (· ≠ '-')).reverse
  let basic := (cs.take (cs.length - digits.length)).dropLast
  if basic.all isBasic then readCodes 72 0x80 0 basic digits else none

/-! ## Laws -/

theorem digit?_digitChar {d : Nat} (h : d < 36) : digit? (digitChar d) = some d := by
  have hall : ∀ e ∈ List.range 36, digit? (digitChar e) = some e := by decide
  exact hall d (List.mem_range.2 h)

/-- **Reading a number takes off what writing it put down**, whatever stands behind it: it is
added to what was there, as often as a digit of its first place weighs. -/
theorem readNumber_writeNumber (bias q : Nat) (rest : List Char) :
    ∀ place weight n : Nat,
      readNumber bias place weight n (writeNumber bias place q ++ rest)
        = some (n + q * weight, rest) := by
  induction q using Nat.strongRecOn with
  | ind q ih =>
    intro place weight n
    rw [writeNumber]
    have pos := threshold_pos place bias
    have le := threshold_le place bias
    split
    · rename_i h
      simp [readNumber, digit?_digitChar (show q < 36 by omega), h]
    · rename_i h
      have quotient := Nat.div_le_self (q - threshold place bias) (36 - threshold place bias)
      have remainder : (q - threshold place bias) % (36 - threshold place bias)
          < 36 - threshold place bias := Nat.mod_lt _ (by omega)
      have whole := Nat.div_add_mod (q - threshold place bias) (36 - threshold place bias)
      rw [List.cons_append, readNumber, digit?_digitChar (by omega)]
      simp only
      rw [if_neg (by omega), ih _ (by omega)]
      generalize (q - threshold place bias) / (36 - threshold place bias) = high at whole
      generalize (q - threshold place bias) % (36 - threshold place bias) = low at whole
      have value : q = threshold place bias + low + high * (36 - threshold place bias) := by
        rw [Nat.mul_comm high]
        omega
      rw [Nat.add_assoc n, Nat.mul_comm weight, ← Nat.mul_assoc, ← Nat.add_mul, ← value]

end NetWatch.Punycode
