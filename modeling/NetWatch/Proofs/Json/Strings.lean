/-
NetWatch.Proofs.Json.Strings — strings are read as they were written.

A written string spells some characters out: after a backslash, or as a UTF-16
unit. The reader of strings first takes the spelling apart (`scanString`) and
then puts the units together (`spelledChars`). Together the two undo
the writing, whatever text the string holds and whatever stands behind it
(`scanToken_stringChars`).
-/
import NetWatch.Json.Token

namespace NetWatch.Json

/-- How a character is spelled in a written string. -/
def spelling (c : Char) : Spelled :=
  if c.toNat < 32 ∧ c.toNat ≠ 8 ∧ c ≠ '\t' ∧ c ≠ '\n' ∧ c.toNat ≠ 12 ∧ c ≠ '\r' then .unit c.toNat
  else .char c

/-! ## Taking the spelling apart -/

theorem hexUnit_control {n : Nat} (h : n < 32) :
    hexUnit '0' '0' (Text.Hex.digitChar (n / 16)) (Text.Hex.digitChar (n % 16)) = some n := by
  have hzero : Text.Hex.digit? '0' = some 0 := by decide
  have hhigh := Text.Hex.digit?_digitChar (show n / 16 < 16 by omega)
  have hlow := Text.Hex.digit?_digitChar (show n % 16 < 16 by omega)
  simp only [hexUnit, hzero, hhigh, hlow, Option.bind_eq_bind, Option.bind_some, Option.pure_def]
  congr 1
  omega

theorem eq_ofNat_of_toNat_eq {c : Char} {n : Nat} (h : c.toNat = n) : c = Char.ofNat n := by
  rw [← h, Char.ofNat_toNat]

/-- A letter after a backslash spells the character that it means. -/
theorem scanString_letter {l c : Char} (h : escapeLetter l = some c) (rest : List Char) :
    scanString ('\\' :: l :: rest) = (scanString rest).map fun p => (.char c :: p.1, p.2) := by
  have hu : l ≠ 'u' := by
    rintro rfl
    have hnone : escapeLetter 'u' = none := by decide
    rw [hnone] at h
    cases h
  rw [scanString.eq_def]
  split
  · simp_all
  · simp_all
  · rename_i heq
    cases heq
    rw [h]
    cases scanString rest <;> rfl
  · rename_i hnot heq
    cases heq
    exact absurd rfl (hnot l rest rfl)
  · simp_all

/-- Any other character spells itself. -/
theorem scanString_char {c : Char} (hquote : c ≠ '"') (hslash : c ≠ '\\') (hc : ¬c.toNat < 32)
    (rest : List Char) :
    scanString (c :: rest) = (scanString rest).map fun p => (.char c :: p.1, p.2) := by
  rw [scanString.eq_def]
  split
  · simp_all
  · simp_all
  · simp_all
  · rename_i heq
    cases heq
    simp only [hc, hslash, or_self, if_false]
    cases scanString rest <;> rfl
  · simp_all

theorem scanString_escapedChar (c : Char) (rest : List Char) :
    scanString (escapedChar c ++ rest) =
      (scanString rest).map fun p => (spelling c :: p.1, p.2) := by
  unfold escapedChar
  split
  · subst c
    exact scanString_letter rfl rest
  split
  · subst c
    exact scanString_letter rfl rest
  split
  · rename_i hc
    rw [eq_ofNat_of_toNat_eq hc]
    exact scanString_letter rfl rest
  split
  · subst c
    exact scanString_letter rfl rest
  split
  · subst c
    exact scanString_letter rfl rest
  split
  · rename_i hc
    rw [eq_ofNat_of_toNat_eq hc]
    exact scanString_letter rfl rest
  split
  · subst c
    exact scanString_letter rfl rest
  split
  · rename_i hlt
    have hspelling : spelling c = .unit c.toNat := by
      unfold spelling
      simp [*]
    simp only [List.cons_append, List.nil_append, scanString, hexUnit_control hlt, hspelling]
    cases scanString rest <;> rfl
  · rename_i hge
    have hspelling : spelling c = .char c := by
      unfold spelling
      simp [hge]
    rw [hspelling]
    exact scanString_char (by assumption) (by assumption) hge rest

/-- The reader takes exactly the spelling of a string, up to its closing quote. -/
theorem scanString_chars (cs rest : List Char) :
    scanString (cs.flatMap escapedChar ++ '"' :: rest) = some (cs.map spelling, rest) := by
  induction cs with
  | nil => simp [scanString]
  | cons c cs ih =>
    rw [List.flatMap_cons, List.append_assoc, scanString_escapedChar, ih]
    rfl

/-! ## Putting the units together -/

theorem spelledChars_unit {n : Nat} (h : n < 32) (rest : List Spelled) :
    spelledChars (.unit n :: rest) = (spelledChars rest).map (Char.ofNat n :: ·) := by
  have hleading : isLeading n = false := by simp [isLeading]; omega
  have htrailing : isTrailing n = false := by simp [isTrailing]; omega
  rcases rest with _ | ⟨_ | _, _⟩ <;> simp [spelledChars, hleading, htrailing]

theorem spelledChars_cons (c : Char) (rest : List Spelled) :
    spelledChars (spelling c :: rest) = (spelledChars rest).map (c :: ·) := by
  unfold spelling
  split
  · rename_i hc
    rw [spelledChars_unit hc.1, Char.ofNat_toNat]
  · rw [spelledChars]

/-- **Spelling loses nothing.** -/
theorem spelledChars_spelling (cs : List Char) : spelledChars (cs.map spelling) = some cs := by
  induction cs with
  | nil => rfl
  | cons c cs ih =>
    rw [List.map_cons, spelledChars_cons, ih]
    rfl

/-- **A written string is read as the string that it is.** -/
theorem scanToken_stringChars (s : String) (rest : List Char) :
    scanToken (stringChars s ++ rest) = (.atom (.string s), rest) := by
  have hscan := scanString_chars s.toList rest
  have happend : stringChars s ++ rest = '"' :: (s.toList.flatMap escapedChar ++ '"' :: rest) := by
    simp [stringChars]
  rw [happend]
  simp only [scanToken, hscan, stringAtom, spelledChars_spelling, String.ofList_toList]

end NetWatch.Json
