/-
NetWatch.Text.Digits — natural numbers as decimal digits.

`decimal` writes a number without sign or padding, `padded` fills up with zeros
on the left, and `decimal?` reads digits back. Main statement: reading what was
written gives the number (`decimal?_decimal`).
-/

namespace NetWatch.Text

/-- The digit for a value below ten. -/
def digitChar (d : Nat) : Char :=
  Char.ofNat (48 + d % 10)

def digit? (c : Char) : Option Nat :=
  if '0' ≤ c ∧ c ≤ '9' then some (c.toNat - 48) else none

/-- The decimal digits of a number, the highest first and none too many. -/
def decimal (n : Nat) : List Char :=
  if n < 10 then [digitChar n] else decimal (n / 10) ++ [digitChar (n % 10)]
termination_by n
decreasing_by omega

/-- At least `width` digits, filled with zeros on the left. -/
def padded (width n : Nat) : List Char :=
  List.replicate (width - (decimal n).length) '0' ++ decimal n

/-- The number that a run of digits writes, most significant first. -/
def ofDigits (start : Nat) : List Char → Option Nat
  | [] => some start
  | c :: rest => do ofDigits (10 * start + (← digit? c)) rest

/-- Reads one digit or more; anything else in the text makes it no number. -/
def decimal? : List Char → Option Nat
  | [] => none
  | cs => ofDigits 0 cs

/-- Splits off the run of digits at the front. -/
def spanDigits (cs : List Char) : List Char × List Char :=
  (cs.takeWhile Char.isDigit, cs.dropWhile Char.isDigit)

/-! ## Laws -/

theorem digit?_digitChar {d : Nat} (h : d < 10) : digit? (digitChar d) = some d := by
  have hall : ∀ e ∈ List.range 10, digit? (digitChar e) = some e := by decide
  exact hall d (List.mem_range.2 h)

theorem ofDigits_append (start : Nat) (xs ys : List Char) :
    ofDigits start (xs ++ ys) = (ofDigits start xs).bind fun n => ofDigits n ys := by
  induction xs generalizing start with
  | nil => rfl
  | cons c rest ih =>
    simp only [List.cons_append, ofDigits]
    cases digit? c with
    | none => rfl
    | some d => simp [ih]

theorem decimal_ne_nil (n : Nat) : decimal n ≠ [] := by
  rw [decimal]
  split <;> simp

theorem ofDigits_decimal (n : Nat) : ofDigits 0 (decimal n) = some n := by
  induction n using Nat.strongRecOn with
  | ind n ih =>
    rw [decimal]
    split
    · rename_i h
      simp [ofDigits, digit?_digitChar h]
    · rename_i h
      rw [ofDigits_append, ih (n / 10) (by omega)]
      simp only [Option.bind_some, ofDigits, digit?_digitChar (Nat.mod_lt n (by omega)),
        Option.bind_eq_bind]
      congr 1
      omega

/-- **Reading what was written gives the number.** -/
theorem decimal?_decimal (n : Nat) : decimal? (decimal n) = some n := by
  have hne := decimal_ne_nil n
  unfold decimal?
  split
  · contradiction
  · exact ofDigits_decimal n

end NetWatch.Text
