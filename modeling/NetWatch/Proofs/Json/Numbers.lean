/-
NetWatch.Proofs.Json.Numbers — numbers are read as they were spelled.

A number is spelled in parts: a sign, digits, digits behind a point, and an
exponent (`Numeral.chars`). If the parts are proper, the reader finds them
again (`scanNumeral_chars`), provided that what stands behind the number cannot
go on with it. A whole number of 64 bits is spelled properly and read back as
itself (`Numeral.value_ofInt`).
-/
import NetWatch.Json.Token

namespace NetWatch.Json

/-- What may stand behind a value inside a container: the end, or punctuation. -/
def Follows (rest : List Char) : Prop :=
  ∀ c ∈ rest.head?, c = ',' ∨ c = ']' ∨ c = '}'

theorem follows_nil : Follows [] := by
  intro c hc
  cases hc

theorem follows_cons {c : Char} (h : c = ',' ∨ c = ']' ∨ c = '}') (rest : List Char) :
    Follows (c :: rest) := by
  intro c' hc'
  cases hc'
  exact h

/-! ## Digits -/

theorem isDigit_of_mem_decimal {n : Nat} : ∀ c ∈ Text.decimal n, c.isDigit = true := by
  have hdigit : ∀ d < 10, (Text.digitChar d).isDigit = true := by decide
  induction n using Nat.strongRecOn with
  | ind n ih =>
    intro c hc
    rw [Text.decimal] at hc
    split at hc
    · rename_i hlt
      rw [List.mem_singleton.1 hc]
      exact hdigit n hlt
    · rename_i hge
      rcases List.mem_append.1 hc with hc | hc
      · exact ih (n / 10) (by omega) c hc
      · rw [List.mem_singleton.1 hc]
        exact hdigit (n % 10) (by omega)

/-- Only zero is written with a zero in front. -/
theorem head?_decimal {n : Nat} (h : n ≠ 0) : (Text.decimal n).head? ≠ some '0' := by
  have hdigit : ∀ d < 10, d ≠ 0 → Text.digitChar d ≠ '0' := by decide
  induction n using Nat.strongRecOn with
  | ind n ih =>
    rw [Text.decimal]
    split
    · rename_i hlt
      simpa using hdigit n hlt h
    · have hfirst := ih (n / 10) (by omega) (by omega)
      cases hd : Text.decimal (n / 10) with
      | nil => exact absurd hd (Text.decimal_ne_nil _)
      | cons d ds =>
        rw [hd] at hfirst
        exact hfirst

/-- A run of digits, one at least. -/
def AreDigits (cs : List Char) : Prop :=
  cs ≠ [] ∧ ∀ c ∈ cs, c.isDigit = true

theorem areDigits_decimal (n : Nat) : AreDigits (Text.decimal n) :=
  ⟨Text.decimal_ne_nil n, isDigit_of_mem_decimal⟩

/-- Digits are taken up to the first character that is none. -/
theorem someDigits_append {ds : List Char} (hds : AreDigits ds) {rest : List Char}
    (h : ∀ c ∈ rest.head?, c.isDigit = false) : someDigits (ds ++ rest) = some (ds, rest) := by
  have hstop : rest.takeWhile Char.isDigit = [] ∧ rest.dropWhile Char.isDigit = rest := by
    cases rest with
    | nil => exact ⟨rfl, rfl⟩
    | cons c rest => simp [h c rfl]
  have hspan : Text.spanDigits (ds ++ rest) = (ds, rest) := by
    unfold Text.spanDigits
    rw [List.takeWhile_append_of_pos hds.2, List.dropWhile_append_of_pos hds.2, hstop.1, hstop.2,
      List.append_nil]
  unfold someDigits
  rw [hspan]
  cases ds with
  | nil => exact absurd rfl hds.1
  | cons d ds => rfl

/-! ## Numerals -/

namespace Numeral

/-- The digits behind the point, if there is one. -/
def fractionChars : Option (List Char) → List Char
  | none => []
  | some ds => '.' :: ds

/-- The exponent with its sign, if there is one. -/
def exponentChars : Option (Bool × List Char) → List Char
  | none => []
  | some (negative, ds) => 'e' :: (if negative then '-' else '+') :: ds

/-- The parts behind the sign, one after the other. -/
def unsignedChars (n : Numeral) : List Char :=
  n.whole ++ (fractionChars n.fraction ++ exponentChars n.exponent)

/-- The parts, one after the other. -/
def chars (n : Numeral) : List Char :=
  if n.negative then '-' :: n.unsignedChars else n.unsignedChars

/-- Whether the parts are spelled as they should be. -/
structure IsProper (n : Numeral) : Prop where
  whole : AreDigits n.whole
  /-- A zero in front stands alone. -/
  leading : n.whole.head? = some '0' → n.whole.length = 1
  fraction : ∀ ds ∈ n.fraction, AreDigits ds
  exponent : ∀ e ∈ n.exponent, AreDigits e.2

/-- A whole number in its parts. -/
def ofInt (i : Int) : Numeral :=
  ⟨decide (i < 0), Text.decimal i.natAbs, none, none⟩

theorem chars_ofInt (i : Int) : (ofInt i).chars = (Number.int i).chars := by
  by_cases h : i < 0 <;>
    simp [ofInt, chars, unsignedChars, fractionChars, exponentChars, Number.chars, h]

theorem leading_decimal {n : Nat} (h : (Text.decimal n).head? = some '0') :
    (Text.decimal n).length = 1 := by
  by_cases hn : n = 0
  · subst hn
    simp [Text.decimal]
  · exact absurd h (head?_decimal hn)

theorem isProper_ofInt (i : Int) : (ofInt i).IsProper where
  whole := areDigits_decimal _
  leading := leading_decimal
  fraction := by
    intro ds hds
    cases hds
  exponent := by
    intro e he
    cases he

/-- A word begins that is a number. -/
theorem IsProper.exists_cons {n : Numeral} (h : n.IsProper) :
    ∃ c cs, n.chars = c :: cs ∧ (c.isDigit = true ∨ c = '-') := by
  cases hwhole : n.whole with
  | nil => exact absurd hwhole h.whole.1
  | cons d ds =>
    have hd : d.isDigit = true := h.whole.2 d (hwhole ▸ List.mem_cons_self)
    by_cases hneg : n.negative = true
    · exact ⟨'-', n.unsignedChars, by simp [chars, hneg], .inr rfl⟩
    · exact ⟨d, ds ++ (fractionChars n.fraction ++ exponentChars n.exponent),
        by simp [chars, unsignedChars, hneg, hwhole], .inl hd⟩

/-! ## Reading parts -/

theorem exponentPart_chars {e : Option (Bool × List Char)} (he : ∀ x ∈ e, AreDigits x.2)
    {rest : List Char} (h : Follows rest) :
    exponentPart (exponentChars e ++ rest) = some (e, rest) := by
  cases e with
  | none =>
    cases rest with
    | nil => rfl
    | cons c rest => rcases h c rfl with rfl | rfl | rfl <;> rfl
  | some x =>
    obtain ⟨negative, ds⟩ := x
    have hstop : ∀ c ∈ rest.head?, c.isDigit = false := by
      intro c hc
      rcases h c hc with rfl | rfl | rfl <;> rfl
    have hdigits := someDigits_append (he _ rfl) hstop
    cases negative <;>
      simp [exponentChars, exponentPart, signedExponent, exponentDigits, hdigits]

/-- What stands behind the whole digits or behind those of a fraction. -/
theorem head?_exponentChars (e : Option (Bool × List Char)) {rest : List Char} (h : Follows rest) :
    ∀ c ∈ (exponentChars e ++ rest).head?, c.isDigit = false ∧ c ≠ '.' := by
  intro c hc
  cases e with
  | none => rcases h c hc with rfl | rfl | rfl <;> exact ⟨rfl, by decide⟩
  | some x =>
    cases hc
    exact ⟨rfl, by decide⟩

theorem fractionPart_chars {f : Option (List Char)} (hf : ∀ ds ∈ f, AreDigits ds)
    {rest : List Char} (h : ∀ c ∈ rest.head?, c.isDigit = false ∧ c ≠ '.') :
    fractionPart (fractionChars f ++ rest) = some (f, rest) := by
  cases f with
  | none =>
    cases rest with
    | nil => rfl
    | cons c rest =>
      have hpoint : c ≠ '.' := (h c rfl).2
      rw [fractionChars, List.nil_append, fractionPart.eq_def]
      split
      · rename_i heq
        cases heq
        exact absurd rfl hpoint
      · rfl
  | some ds =>
    have hdigits := someDigits_append (hf ds rfl) fun c hc => (h c hc).1
    simp [fractionChars, fractionPart, hdigits]

theorem wholePart_append {ds : List Char} (hds : AreDigits ds)
    (hzero : ds.head? = some '0' → ds.length = 1) {rest : List Char}
    (h : ∀ c ∈ rest.head?, c.isDigit = false) : wholePart (ds ++ rest) = some (ds, rest) := by
  have hlone : ¬(ds.head? = some '0' ∧ ds.length ≠ 1) := fun hc => hc.2 (hzero hc.1)
  simp only [wholePart, someDigits_append hds h, Option.bind_eq_bind, Option.bind_some,
    if_neg hlone]

theorem unsignedNumeral_chars {n : Numeral} (hn : n.IsProper) {rest : List Char}
    (h : Follows rest) : unsignedNumeral n.negative (n.unsignedChars ++ rest) = some (n, rest) := by
  have hexponent := head?_exponentChars n.exponent h
  have hfraction : ∀ c ∈ (fractionChars n.fraction ++ (exponentChars n.exponent ++ rest)).head?,
      c.isDigit = false := by
    intro c hc
    cases hf : n.fraction with
    | none =>
      rw [hf] at hc
      exact (hexponent c hc).1
    | some ds =>
      rw [hf] at hc
      cases hc
      rfl
  rw [unsignedChars, List.append_assoc, List.append_assoc]
  simp only [unsignedNumeral, wholePart_append hn.whole hn.leading hfraction,
    fractionPart_chars hn.fraction hexponent, exponentPart_chars hn.exponent h,
    Option.bind_eq_bind, Option.bind_some, Option.pure_def]

/-- **A number is read in the parts in which it was spelled.** -/
theorem scanNumeral_chars {n : Numeral} (hn : n.IsProper) {rest : List Char} (h : Follows rest) :
    scanNumeral (n.chars ++ rest) = some (n, rest) := by
  have hunsigned := unsignedNumeral_chars hn h
  cases hneg : n.negative with
  | true =>
    rw [hneg] at hunsigned
    simpa [chars, hneg, scanNumeral] using hunsigned
  | false =>
    rw [hneg] at hunsigned
    obtain ⟨c, cs, hcons, -⟩ := hn.exists_cons
    have hsign : c ≠ '-' := by
      rintro rfl
      cases hwhole : n.whole with
      | nil => exact hn.whole.1 hwhole
      | cons d ds =>
        have hd : d.isDigit = true := hn.whole.2 d (hwhole ▸ List.mem_cons_self)
        simp [chars, hneg, unsignedChars, hwhole] at hcons
        rw [hcons.1] at hd
        cases hd
    have hchars : n.chars = n.unsignedChars := by simp [chars, hneg]
    rw [← hchars, hcons] at hunsigned
    rw [hcons, List.cons_append, scanNumeral.eq_def]
    split
    · rename_i heq
      cases heq
      exact absurd rfl hsign
    · exact hunsigned

/-- A word that begins with a digit or a sign is a number. -/
theorem scanToken_of_digit {c : Char} (h : c.isDigit = true ∨ c = '-') (rest : List Char) :
    scanToken (c :: rest) = scanNumber (c :: rest) := by
  rw [scanToken.eq_def]
  split <;> first | rfl | (rename_i heq; cases heq; exact absurd h (by decide))

/-- A properly spelled number is a word. -/
theorem scanToken_chars {n : Numeral} (hn : n.IsProper) {rest : List Char} (h : Follows rest) :
    scanToken (n.chars ++ rest) = (.atom (numberAtom n), rest) := by
  have hscan := scanNumeral_chars hn h
  obtain ⟨c, cs, hcons, hc⟩ := hn.exists_cons
  rw [hcons] at hscan ⊢
  rw [List.cons_append] at hscan ⊢
  simp only [scanToken_of_digit hc, scanNumber, hscan]

/-! ## Values -/

theorem digitsValue_decimal (n : Nat) : digitsValue (Text.decimal n) = n := by
  simp [digitsValue, Text.decimal?_decimal]

/-- **A whole number of 64 bits is its own value.** -/
theorem value_ofInt {i : Int} (h : Number.fitsWord i = true) : (ofInt i).value = some (.int i) := by
  have hrange : -9223372036854775808 ≤ i ∧ i ≤ 18446744073709551615 := by
    simpa [Number.fitsWord] using h
  by_cases hneg : i < 0
  · have hpos : 0 < i.natAbs := by omega
    have hle : i.natAbs ≤ 9223372036854775808 := by omega
    have hsame : -(i.natAbs : Int) = i := by omega
    simp only [ofInt, value, digitsValue_decimal, hneg, hpos, hle, hsame, decide_true,
      Option.isNone_none, Bool.and_true, Bool.not_true, Bool.and_false, Bool.false_eq_true,
      Bool.false_and, if_false, if_true]
  · have hlt : i.natAbs < 18446744073709551616 := by omega
    have hsame : (i.natAbs : Int) = i := by omega
    simp only [ofInt, value, digitsValue_decimal, hneg, hlt, hsame, decide_false, decide_true,
      Option.isNone_none, Bool.and_true, Bool.not_false, if_true]

end Numeral

end NetWatch.Json
