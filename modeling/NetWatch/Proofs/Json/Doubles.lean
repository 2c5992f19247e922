/-
NetWatch.Proofs.Json.Doubles — doubles are written as proper numbers.

A double is written with the fewest digits that single it out, either with all
its places (`Decimal.positional`) or with an exponent (`Decimal.exponential`).
Both are proper spellings of a number (`Decimal.exists_numeral`). The one thing
to see to is a zero in front, which only a number without digits could have:
then the search for digits must have ended at a place behind the point
(`Decimal.exponent_of_digits_eq_zero`). Nothing is used of floating-point
arithmetic.
-/
import NetWatch.Proofs.Json.Numbers

namespace NetWatch.Decimal

open Json

/-! ## Digits of zero -/

/-- A number without digits has no places in front of the point either. -/
def Scientific.IsTidy (s : Scientific) : Prop :=
  s.digits = 0 → s.exponent ≤ 0

theorem Scientific.isTidy_strip {s : Scientific} (h : s.IsTidy) : s.strip.IsTidy := by
  induction s using Scientific.strip.induct with
  | case1 s hs hlt ih =>
    rw [Scientific.strip, dif_pos hs]
    refine ih ?_
    intro hzero
    have hzero : s.digits / 10 = 0 := hzero
    omega
  | case2 s hs =>
    rw [Scientific.strip, dif_neg hs]
    exact h

theorem Neighbourhood.low_of {m : Nat} (hm : m ≠ 0) (q : Int) (narrow : Bool) :
    0 < (Neighbourhood.of m q narrow).low := by
  have hunit : 0 < Nat.pow 2 (q - 2).toNat := Nat.pow_pos (by decide)
  refine Nat.mul_pos ?_ hunit
  cases narrow
  · show 0 < 4 * m - 2
    omega
  · show 0 < 4 * m - 1
    omega

/-- Nothing around a number above zero is zero. -/
theorem Neighbourhood.holds_zero {n : Neighbourhood} (hn : 0 < n.low) {scale : Nat}
    (hscale : 0 < scale) : n.holds scale 0 = false := by
  have hlow : 0 < n.low * scale := Nat.mul_pos hn hscale
  unfold holds
  split
  · simp
    omega
  · simp

theorem Neighbourhood.digits_pos_of_onGrid {n : Neighbourhood} (hn : 0 < n.low) {exponent : Int}
    {s : Scientific} (h : n.onGrid exponent = some s) : 0 < s.digits := by
  have hscale : 0 < Nat.pow 10 (-exponent).toNat := Nat.pow_pos (by decide)
  unfold onGrid at h
  dsimp only at h
  -- the number below can be meant only if it is not zero
  have hbelow : ∀ below step, n.holds (Nat.pow 10 (-exponent).toNat) (below * step) = true →
      0 < below := by
    intro below step hholds
    rcases Nat.eq_zero_or_pos below with rfl | hpos
    · rw [Nat.zero_mul, holds_zero hn hscale] at hholds
      cases hholds
    · exact hpos
  split at h
  · rename_i hlow _
    have hpos := hbelow _ _ hlow
    cases h
    dsimp only
    split <;> omega
  · rename_i hlow _
    have hpos := hbelow _ _ hlow
    cases h
    exact hpos
  · cases h
    exact Nat.succ_pos _
  · cases h

theorem Neighbourhood.exponent_of_onGrid {n : Neighbourhood} {exponent : Int} {s : Scientific}
    (h : n.onGrid exponent = some s) : s.exponent = exponent := by
  unfold onGrid at h
  dsimp only at h
  split at h <;> cases h <;> rfl

/-- The search goes from coarse to fine, so that it never ends before the point
if it begins behind it, and it finds no zero around a number above zero. -/
theorem Neighbourhood.isTidy_search {n : Neighbourhood} {exponent : Int}
    (hn : 0 < n.low ∨ exponent ≤ 0) (remaining : Nat) : (n.search exponent remaining).IsTidy := by
  induction remaining generalizing exponent with
  | zero => exact fun _ => Int.le_refl 0
  | succ remaining ih =>
    rw [search]
    cases hgrid : n.onGrid exponent with
    | none => exact ih (hn.imp id fun hle => by omega)
    | some s =>
      intro hzero
      rcases hn with hn | hle
      · have hpos := digits_pos_of_onGrid hn hgrid
        have hzero : s.digits = 0 := hzero
        omega
      · have hexponent := exponent_of_onGrid hgrid
        show s.exponent ≤ 0
        omega

theorem magnitude_zero (denominator : Nat) : magnitude 0 denominator ≤ 0 := by
  have hone : (Text.decimal 0).length = 1 := by simp [Text.decimal]
  have hlength : 0 < (Text.decimal denominator).length :=
    List.length_pos_iff.2 (Text.decimal_ne_nil _)
  unfold magnitude
  dsimp only
  split <;> omega

theorem isTidy_shortest (m : Nat) (q : Int) (narrow : Bool) : (shortest m q narrow).IsTidy := by
  refine Scientific.isTidy_strip (Neighbourhood.isTidy_search ?_ _)
  by_cases hm : m = 0
  · have hvalue : (Neighbourhood.of m q narrow).value = 0 := by simp [hm, Neighbourhood.of]
    rw [hvalue]
    exact .inr (magnitude_zero _)
  · exact .inl (Neighbourhood.low_of hm q narrow)

theorem isTidy_ofFloat (x : Float) : (ofFloat x).IsTidy := by
  unfold ofFloat
  split <;> exact isTidy_shortest _ _ _

/-! ## Spelling -/

theorem isDigit_of_mem_zeros {n : Nat} : ∀ c ∈ List.replicate n '0', c.isDigit = true := by
  intro c hc
  rw [List.eq_of_mem_replicate hc]
  rfl

theorem areDigits_zero : AreDigits ['0'] :=
  ⟨by simp, isDigit_of_mem_zeros (n := 1)⟩

/-- Whether a text is a proper number without a sign. -/
def IsUnsigned (cs : List Char) : Prop :=
  ∃ n : Numeral, n.IsProper ∧ n.unsignedChars = cs

/-- Whether a text is a proper number without a sign and an exponent. -/
def IsMantissa (cs : List Char) : Prop :=
  ∃ n : Numeral, n.IsProper ∧ n.exponent = none ∧ n.unsignedChars = cs

theorem IsMantissa.isUnsigned {cs : List Char} (h : IsMantissa cs) : IsUnsigned cs := by
  obtain ⟨n, hn, -, hchars⟩ := h
  exact ⟨n, hn, hchars⟩

theorem IsMantissa.exponent {cs ds : List Char} (h : IsMantissa cs) (negative : Bool)
    (hds : AreDigits ds) : IsUnsigned (cs ++ 'e' :: (if negative then '-' else '+') :: ds) := by
  obtain ⟨n, hn, hnone, rfl⟩ := h
  refine ⟨{ n with exponent := some (negative, ds) }, ⟨hn.whole, hn.leading, hn.fraction, ?_⟩, ?_⟩
  · rintro e ⟨⟩
    exact hds
  · simp [Numeral.unsignedChars, Numeral.exponentChars, hnone]

theorem isMantissa_decimal (n : Nat) : IsMantissa (Text.decimal n) :=
  ⟨.ofInt n, Numeral.isProper_ofInt n, rfl, by
    simp [Numeral.ofInt, Numeral.unsignedChars, Numeral.fractionChars, Numeral.exponentChars]⟩

/-- A point between digits. -/
theorem isMantissa_point {whole ds : List Char} (hwhole : AreDigits whole)
    (hleading : whole.head? = some '0' → whole.length = 1) (hds : AreDigits ds) :
    IsMantissa (whole ++ '.' :: ds) := by
  refine ⟨⟨false, whole, some ds, none⟩, ⟨hwhole, hleading, ?_, ?_⟩, rfl, ?_⟩
  · rintro ds ⟨⟩
    exact hds
  · rintro e ⟨⟩
  · simp [Numeral.unsignedChars, Numeral.fractionChars, Numeral.exponentChars]

/-- A whole number with one zero more behind the point. -/
theorem isMantissa_whole {s : Scientific} (hs : s.IsTidy) :
    IsMantissa (Text.decimal s.digits ++ List.replicate s.exponent.toNat '0' ++ ['.', '0']) := by
  refine isMantissa_point ⟨by simp [Text.decimal_ne_nil], fun c hc => ?_⟩ ?_ areDigits_zero
  · exact (List.mem_append.1 hc).elim (isDigit_of_mem_decimal c) (isDigit_of_mem_zeros c)
  · intro hhead
    have hhead : (Text.decimal s.digits).head? = some '0' := by
      cases hd : Text.decimal s.digits with
      | nil => exact absurd hd (Text.decimal_ne_nil _)
      | cons d ds => simpa [hd] using hhead
    have hzero : s.digits = 0 := by
      by_cases hne : s.digits = 0
      · exact hne
      · exact absurd hhead (head?_decimal hne)
    have hplaces : s.exponent.toNat = 0 := by
      have hle := hs hzero
      omega
    rw [hplaces, List.replicate_zero, List.append_nil]
    exact Numeral.leading_decimal hhead

/-- A point among the digits. -/
theorem isMantissa_among {n point : Nat} (hpos : 0 < point)
    (hlt : point < (Text.decimal n).length) :
    IsMantissa ((Text.decimal n).take point ++ '.' :: (Text.decimal n).drop point) := by
  refine isMantissa_point ⟨?_, fun c hc => isDigit_of_mem_decimal c (List.mem_of_mem_take hc)⟩ ?_
    ⟨?_, fun c hc => isDigit_of_mem_decimal c (List.mem_of_mem_drop hc)⟩
  · rw [← List.length_pos_iff, List.length_take]
    omega
  · intro hhead
    rw [List.head?_take, if_neg (by omega)] at hhead
    have hone := Numeral.leading_decimal hhead
    omega
  · rw [← List.length_pos_iff, List.length_drop]
    omega

/-- Zeros up to the point and behind it. -/
theorem isMantissa_small (zeros n : Nat) :
    IsMantissa ('0' :: '.' :: List.replicate zeros '0' ++ Text.decimal n) := by
  refine isMantissa_point areDigits_zero (fun _ => rfl)
    ⟨by simp [Text.decimal_ne_nil], fun c hc => ?_⟩
  exact (List.mem_append.1 hc).elim (isDigit_of_mem_zeros c) (isDigit_of_mem_decimal c)

theorem isUnsigned_positional {s : Scientific} (hs : s.IsTidy) : IsUnsigned (positional s) := by
  unfold positional
  dsimp only
  split
  · exact (isMantissa_whole hs).isUnsigned
  · split
    · exact (isMantissa_among (by omega) (by omega)).isUnsigned
    · exact (isMantissa_small _ _).isUnsigned

theorem isUnsigned_exponential (s : Scientific) : IsUnsigned (exponential s) := by
  have hmantissa : IsMantissa (if (Text.decimal s.digits).length = 1 then Text.decimal s.digits
      else (Text.decimal s.digits).take 1 ++ '.' :: (Text.decimal s.digits).drop 1) := by
    have hpos := List.length_pos_iff.2 (Text.decimal_ne_nil s.digits)
    split
    · exact isMantissa_decimal _
    · exact isMantissa_among Nat.one_pos (by omega)
  simpa [exponential] using hmantissa.exponent
    (decide (((Text.decimal s.digits).length : Int) + s.exponent - 1 < 0)) (areDigits_decimal _)

/-- **A finite double is written as a proper number.** -/
theorem exists_numeral (x : Float) : ∃ n : Numeral, n.IsProper ∧ n.chars = text x := by
  have hbody : ∃ body, IsUnsigned body ∧
      text x = (if signBit x then ['-'] else []) ++ body := by
    unfold text
    dsimp only
    split
    · exact ⟨_, (isMantissa_small 0 0).isUnsigned, by simp [Text.decimal, Text.digitChar]⟩
    · refine ⟨_, ?_, rfl⟩
      split
      · exact isUnsigned_positional (isTidy_ofFloat x)
      · exact isUnsigned_exponential _
  obtain ⟨body, ⟨n, hn, rfl⟩, htext⟩ := hbody
  refine ⟨{ n with negative := signBit x }, ⟨hn.whole, hn.leading, hn.fraction, hn.exponent⟩, ?_⟩
  rw [htext]
  cases signBit x <;> rfl

end NetWatch.Decimal
