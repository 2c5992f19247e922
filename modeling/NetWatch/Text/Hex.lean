/-
NetWatch.Text.Hex — bytes as pairs of hexadecimal digits.

Writing uses lower-case digits; reading takes either case and refuses an odd
number of digits and every other character. Main statement: reading undoes
writing (`decode_encode`).
-/

namespace NetWatch.Text.Hex

/-- The lower-case digit for a value below sixteen. -/
def digitChar (d : Nat) : Char :=
  if d < 10 then Char.ofNat (48 + d) else Char.ofNat (87 + d)

/-- The value of a hexadecimal digit of either case. -/
def digit? (c : Char) : Option Nat :=
  if '0' ≤ c ∧ c ≤ '9' then some (c.toNat - 48)
  else if 'a' ≤ c ∧ c ≤ 'f' then some (c.toNat - 87)
  else if 'A' ≤ c ∧ c ≤ 'F' then some (c.toNat - 55)
  else none

/-- Two digits for every byte, the high one first. -/
def encode : List UInt8 → List Char
  | [] => []
  | b :: rest => digitChar (b.toNat / 16) :: digitChar (b.toNat % 16) :: encode rest

/-- Reads pairs of digits; a lone digit at the end or a foreign character is refused. -/
def decode : List Char → Option (List UInt8)
  | [] => some []
  | [_] => none
  | h :: l :: rest => do
    let hi ← digit? h
    let lo ← digit? l
    let bytes ← decode rest
    return UInt8.ofNat (16 * hi + lo) :: bytes

/-! ## Laws -/

theorem digit?_digitChar {d : Nat} (h : d < 16) : digit? (digitChar d) = some d := by
  have hall : ∀ e ∈ List.range 16, digit? (digitChar e) = some e := by decide
  exact hall d (List.mem_range.2 h)

@[simp] theorem length_encode (bytes : List UInt8) : (encode bytes).length = 2 * bytes.length := by
  induction bytes with
  | nil => rfl
  | cons b rest ih =>
    simp only [encode, List.length_cons, ih]
    omega

/-- **Reading undoes writing.** -/
theorem decode_encode (bytes : List UInt8) : decode (encode bytes) = some bytes := by
  induction bytes with
  | nil => rfl
  | cons b rest ih =>
    have hb : b.toNat < 256 := b.toNat_lt
    simp only [encode, decode, digit?_digitChar (show b.toNat / 16 < 16 by omega),
      digit?_digitChar (show b.toNat % 16 < 16 by omega), ih, Option.bind_eq_bind,
      Option.bind_some, Option.pure_def, Option.some.injEq, List.cons.injEq, and_true]
    rw [show 16 * (b.toNat / 16) + b.toNat % 16 = b.toNat by omega]
    exact UInt8.ofNat_toNat

end NetWatch.Text.Hex
