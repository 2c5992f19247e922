/-
NetWatch.Proofs.Signature.Spelling — which texts are the signature of a message (`verify`).

Hexadecimal digits are read in either case and written in lower case. So a text
is read as some bytes exactly if, put into lower case, it is what these bytes
are written as (`Text.Hex.decode_eq_some_iff`). The signature of a message has
therefore one spelling up to the case of its letters, and nothing shorter,
longer or foreign is taken for it (`Signature.verify_iff_spelled`).
-/
import NetWatch.Signature

namespace NetWatch

/-! ## Digits in either case -/

namespace Text.Hex

variable {c : Char} {d : Nat} {cs : List Char} {bytes : List UInt8}

/-- What holds of the characters of ASCII holds of every one below 128. -/
theorem of_lt_of_forall_range {p : Char → Prop} (h : ∀ n ∈ List.range 128, p (Char.ofNat n))
    (hc : c.toNat < 128) : p c := by
  have hofNat := h c.toNat (List.mem_range.2 hc)
  rwa [Char.ofNat_toNat] at hofNat

/-- Only characters of ASCII are digits. -/
theorem lt_of_digit? (h : digit? c = some d) : c.toNat < 128 := by
  have hle {a : Char} (ha : a.toNat < 128) (hca : c ≤ a) : c.toNat < 128 :=
    Nat.lt_of_le_of_lt (UInt32.le_iff_toNat_le.1 (Char.le_def.1 hca)) ha
  unfold digit? at h
  split at h
  · rename_i hc
    exact hle (by decide) hc.2
  · split at h
    · rename_i hc
      exact hle (by decide) hc.2
    · split at h
      · rename_i hc
        exact hle (by decide) hc.2
      · cases h

/-- A character outside of ASCII has no other case here. -/
theorem toLower_of_le (h : 128 ≤ c.toNat) : c.toLower = c := by
  unfold Char.toLower
  refine dif_neg fun hc => ?_
  have hle : c.toNat ≤ 'Z'.toNat := UInt32.le_iff_toNat_le.1 hc.2
  have hZ : 'Z'.toNat = 90 := by decide
  omega

/-- The value of a digit does not depend on its case. -/
theorem digit?_toLower (c : Char) : digit? c.toLower = digit? c := by
  by_cases hc : c.toNat < 128
  · exact of_lt_of_forall_range (p := fun c => digit? c.toLower = digit? c)
      (by decide +kernel) hc
  · rw [toLower_of_le (Nat.not_lt.1 hc)]

/-- A digit is, in lower case, the one that its value is written with. -/
theorem digitChar_of_digit? (h : digit? c = some d) : d < 16 ∧ digitChar d = c.toLower := by
  have hall : ∀ n ∈ List.range 128, ∀ d ∈ digit? (Char.ofNat n),
      d < 16 ∧ digitChar d = (Char.ofNat n).toLower := by decide +kernel
  exact of_lt_of_forall_range (p := fun c => ∀ d ∈ digit? c, d < 16 ∧ digitChar d = c.toLower)
    hall (lt_of_digit? h) d h

/-- The digits that are read. -/
def digits : List Char :=
  "0123456789abcdefABCDEF".toList

theorem mem_digits_of_digit? (h : digit? c = some d) : c ∈ digits := by
  have hall : ∀ n ∈ List.range 128, ∀ d ∈ digit? (Char.ofNat n), Char.ofNat n ∈ digits := by
    decide +kernel
  exact of_lt_of_forall_range (p := fun c => ∀ d ∈ digit? c, c ∈ digits) hall (lt_of_digit? h) d h

/-! ## Bytes in either case -/

theorem decode_map_toLower (cs : List Char) : decode (cs.map Char.toLower) = decode cs := by
  fun_induction decode cs with
  | case1 => rfl
  | case2 c => rfl
  | case3 h l rest ih => simp only [List.map_cons, decode, digit?_toLower, ih]

/-- A text that is read as bytes begins with two digits, those of the first of them. -/
theorem decode_cons_cons_eq_some {h l : Char} {rest : List Char}
    (hread : decode (h :: l :: rest) = some bytes) :
    ∃ hi lo bytes', digit? h = some hi ∧ digit? l = some lo ∧ decode rest = some bytes' ∧
      bytes = UInt8.ofNat (16 * hi + lo) :: bytes' := by
  simp only [decode, Option.bind_eq_bind, Option.bind_eq_some_iff, Option.pure_def,
    Option.some.injEq] at hread
  obtain ⟨hi, hhi, lo, hlo, bytes', hbytes', rfl⟩ := hread
  exact ⟨hi, lo, bytes', hhi, hlo, hbytes', rfl⟩

/-- What is read as bytes is, in lower case, what they are written as. -/
theorem encode_of_decode (hread : decode cs = some bytes) :
    encode bytes = cs.map Char.toLower := by
  induction cs using decode.induct generalizing bytes with
  | case1 =>
    cases hread
    rfl
  | case2 c => cases hread
  | case3 h l rest ih =>
    obtain ⟨hi, lo, bytes', hhi, hlo, hrest, rfl⟩ := decode_cons_cons_eq_some hread
    obtain ⟨hhi16, hhigh⟩ := digitChar_of_digit? hhi
    obtain ⟨hlo16, hlow⟩ := digitChar_of_digit? hlo
    have hvalue : (UInt8.ofNat (16 * hi + lo)).toNat = 16 * hi + lo :=
      UInt8.toNat_ofNat_of_lt' (by show _ < 256; omega)
    rw [encode, hvalue, List.map_cons, List.map_cons, ih hrest, ← hhigh, ← hlow,
      show (16 * hi + lo) / 16 = hi by omega, show (16 * hi + lo) % 16 = lo by omega]

/-- **A text is read as some bytes exactly if it is what they are written as**, up to the case of
its letters. -/
theorem decode_eq_some_iff : decode cs = some bytes ↔ cs.map Char.toLower = encode bytes := by
  constructor
  · exact fun hread => (encode_of_decode hread).symm
  · intro h
    rw [← decode_map_toLower, h, decode_encode]

/-- Only digits are read. -/
theorem mem_digits_of_decode (hread : decode cs = some bytes) : ∀ c ∈ cs, c ∈ digits := by
  induction cs using decode.induct generalizing bytes with
  | case1 => simp
  | case2 c => cases hread
  | case3 h l rest ih =>
    obtain ⟨hi, lo, bytes', hhi, hlo, hrest, -⟩ := decode_cons_cons_eq_some hread
    simp only [List.mem_cons, forall_eq_or_imp]
    exact ⟨mem_digits_of_digit? hhi, mem_digits_of_digit? hlo, ih hrest⟩

end Text.Hex

/-! ## The spelling of a signature -/

namespace Signature

variable {secret message : List UInt8} {signature : String}

theorem verify_eq_true_iff : verify secret message signature = true ↔
    Text.Hex.decode signature.toList = some (mac secret message) := by
  unfold verify
  cases Text.Hex.decode signature.toList with
  | none => simp
  | some bytes => simp

theorem verify_iff_toLower : verify secret message signature = true ↔
    signature.map Char.toLower = sign secret message := by
  rw [verify_eq_true_iff, Text.Hex.decode_eq_some_iff, sign, ← String.toList_inj,
    String.toList_map, String.toList_ofList]

theorem length_sign (secret message : List UInt8) : (sign secret message).length = 64 := by
  rw [sign, String.length_ofList, Text.Hex.length_encode, length_mac]

theorem length_of_verify (h : verify secret message signature = true) :
    signature.length = 64 := by
  have hlower := congrArg String.length (verify_iff_toLower.1 h)
  rwa [length_sign, String.length_map] at hlower

/-- **A message has one signature**, up to the case of its letters. A text is taken for it exactly
if it is spelled like it; so it is taken itself, and nothing that is cut off it, goes on behind it,
has an odd number of characters or one that is no digit. -/
theorem verify_iff_spelled (secret message : List UInt8) :
    (∀ signature, verify secret message signature = true ↔
      signature.map Char.toLower = sign secret message) ∧
    verify secret message (sign secret message) = true ∧
    (∀ start rest, start ++ rest = sign secret message → rest ≠ "" →
      verify secret message start = false) ∧
    (∀ rest, rest ≠ "" → verify secret message (sign secret message ++ rest) = false) ∧
    (∀ signature, signature.length % 2 = 1 → verify secret message signature = false) ∧
    ∀ signature, (∃ c ∈ signature.toList, c ∉ Text.Hex.digits) →
      verify secret message signature = false := by
  have hlength {signature : String} (h : signature.length ≠ 64) :
      verify secret message signature = false :=
    Bool.eq_false_iff.2 fun hverified => h (length_of_verify hverified)
  have hpos {rest : String} (h : rest ≠ "") : 0 < rest.length :=
    Nat.pos_of_ne_zero fun hzero => h (String.length_eq_zero_iff.1 hzero)
  have hsigned := length_sign secret message
  refine ⟨fun _ => verify_iff_toLower, verify_sign secret message, fun start rest hcut hrest => ?_,
    fun rest hrest => ?_, fun signature hodd => hlength (by omega),
    fun signature hforeign => Bool.eq_false_iff.2 fun hverified => ?_⟩
  · refine hlength ?_
    have hlong := congrArg String.length hcut
    rw [String.length_append] at hlong
    have hsome := hpos hrest
    omega
  · refine hlength ?_
    rw [String.length_append]
    have hsome := hpos hrest
    omega
  · obtain ⟨c, hc, hnot⟩ := hforeign
    exact hnot (Text.Hex.mem_digits_of_decode (verify_eq_true_iff.1 hverified) c hc)

/-- A known signature: in upper case it is taken as well, without its last digit, with one more or
with a letter that is no digit it is not. -/
theorem verify_iff_spelled_of_known :
    let secret := "Jefe".toUTF8.toList
    let message := "what do ya want for nothing?".toUTF8.toList
    let known := "5bdcc146bf60754e6a042426089575c75a003f089d2739839dec58b964ec3843"
    sign secret message = known ∧
      verify secret message "5BDCC146BF60754E6A042426089575C75A003F089D2739839DEC58B964EC3843" =
        true ∧
      verify secret message "5bdcc146bf60754e6a042426089575c75a003f089d2739839dec58b964ec384" =
        false ∧
      verify secret message (known ++ "0") = false ∧
      verify secret message "5bdcc146bf60754e6a042426089575c75a003f089d2739839dec58b964ec384Ж" =
        false := by
  intro secret message known
  have hsign : sign secret message = known := by decide +kernel
  obtain ⟨hiff, -, hcut, hmore, -, hforeign⟩ := verify_iff_spelled secret message
  rw [hsign] at hiff hcut hmore
  exact ⟨hsign, (hiff _).2 (by decide +kernel), hcut _ "3" (by decide +kernel) (by decide),
    hmore "0" (by decide), hforeign _ ⟨'Ж', by decide +kernel, by decide⟩⟩

end Signature

end NetWatch
