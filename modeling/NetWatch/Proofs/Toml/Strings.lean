/-
NetWatch.Proofs.Toml.Strings — strings are read from documents as they were written.

A string is written in one of four forms, and the characters in it decide which
(`formOf`). Each form has a reader of its own, and each reader is shown to undo
its form: from character to character, with what stands behind the string left
over. Together they undo the writing of any text (`readString_writeString`).

Single characters are the same in both forms with escapes (`Spells`). In the
forms with tripled quotes a quote is not taken before it is known what follows
it. For double quotes, which are escaped so that never three stand in a row, the
statement is therefore about text with up to two quotes in front of it that have
been written and not been read (`basicLinesRest_escapedLines`).
-/
import NetWatch.Toml.Text
import Mathlib

namespace NetWatch.Toml

/-! ## Characters -/

/-- How a character is spelled between double quotes. -/
inductive Spells (c : Char) : List Char → Prop where
  | self (hplain : isPlain c = true) (hquote : c ≠ '"') (hslash : c ≠ '\\') : Spells c [c]
  | letter {l : Char} (h : escapeLetter? l = some c) : Spells c ['\\', l]
  | point {x y z w : Char} (h : codePoint? [x, y, z, w] = some c) :
    Spells c ['\\', 'u', x, y, z, w]

theorem digit?_hexChar {d : Nat} (h : d < 16) : Text.Hex.digit? (hexChar d) = some d := by
  have hall : ∀ e ∈ List.range 16, Text.Hex.digit? (hexChar e) = some e := by decide
  exact hall d (List.mem_range.2 h)

theorem codePoint?_control {c : Char} (h : c.toNat < 128) :
    codePoint? ['0', '0', hexChar (c.toNat / 16), hexChar (c.toNat % 16)] = some c := by
  have hzero : Text.Hex.digit? '0' = some 0 := by decide
  have hhigh := digit?_hexChar (show c.toNat / 16 < 16 by omega)
  have hlow := digit?_hexChar (show c.toNat % 16 < 16 by omega)
  have hsum : 16 * (c.toNat / 16) + c.toNat % 16 = c.toNat := by omega
  have hvalid : c.toNat.isValidChar := c.valid
  simp only [codePoint?, hexNumber?, hzero, hhigh, hlow, Nat.mul_zero, Nat.zero_add, Nat.add_zero,
    hsum, dif_pos hvalid]
  rfl

/-- A character that has no spelling of its own is one of the lowest. -/
theorem toNat_lt_of_not_isPlain {c : Char} (h : isPlain c = false) : c.toNat < 128 := by
  simp [isPlain] at h
  omega

/-- Every character is spelled so that it is known again. -/
theorem spells_escaped (c : Char) : Spells c (escaped c) := by
  unfold escaped
  split
  · subst c
    exact .letter rfl
  split
  · subst c
    exact .letter rfl
  split
  · rename_i h
    exact .letter (by rw [← Char.ofNat_toNat c, h]; rfl)
  split
  · subst c
    exact .letter rfl
  split
  · subst c
    exact .letter rfl
  split
  · rename_i h
    exact .letter (by rw [← Char.ofNat_toNat c, h]; rfl)
  split
  · subst c
    exact .letter rfl
  split
  · exact .self ‹_› ‹_› ‹_›
  · rename_i h
    exact .point (codePoint?_control (toNat_lt_of_not_isPlain (by simpa using h)))

/-- No line ends at a letter that stands for a character. -/
theorem endsLine_letter {l c : Char} (h : escapeLetter? l = some c) (rest : List Char) :
    endsLine (l :: rest) = false := by
  have hspace : isSpace l = false := by
    cases hl : isSpace l with
    | false => rfl
    | true =>
      simp only [isSpace, Bool.or_eq_true, beq_iff_eq] at hl
      rcases hl with rfl | rfl <;> cases h
  have hskip : skipSpace (l :: rest) = l :: rest := by simp [skipSpace, hspace]
  unfold endsLine
  rw [hskip, lineEnd?.eq_def]
  split
  · rename_i heq
    cases heq
    cases h
  · rename_i heq
    cases heq
    cases h
  · rfl

/-! ## One line between double quotes -/

theorem basicRest_spells {c : Char} {cs : List Char} (h : Spells c cs) (rest : List Char) :
    basicRest (cs ++ rest) = withChar c (basicRest rest) := by
  cases h with
  | self hplain hquote hslash =>
    rw [List.singleton_append, basicRest.eq_def]
    split <;> simp_all
  | letter hl =>
    rename_i l
    rw [List.cons_append, List.singleton_append, basicRest.eq_def]
    split
    · simp_all
    · simp_all
    · rename_i heq
      cases heq
      cases hl
    · rename_i heq
      cases heq
      cases hl
    · rename_i heq
      cases heq
      rw [hl]
      rfl
    · rename_i hnot heq
      cases heq
      exact absurd rfl (hnot _ _ rfl)
  | point hp =>
    simp only [List.cons_append, List.nil_append, basicRest, hp]
    rfl

/-- **The reader of one line between double quotes undoes the escapes.** -/
theorem basicRest_escaped (cs rest : List Char) :
    basicRest (cs.flatMap escaped ++ '"' :: rest) = some (cs, rest) := by
  induction cs with
  | nil => simp [basicRest]
  | cons c cs ih =>
    rw [List.flatMap_cons, List.append_assoc, basicRest_spells (spells_escaped c), ih]
    rfl

/-! ## One line between single quotes -/

theorem literalRest_append {cs : List Char} (h : ∀ c ∈ cs, isPlain c = true ∧ c ≠ '\x27')
    (rest : List Char) : literalRest (cs ++ '\x27' :: rest) = some (cs, rest) := by
  induction cs with
  | nil => simp [literalRest]
  | cons c cs ih =>
    obtain ⟨hplain, hquote⟩ := h c List.mem_cons_self
    have hrest := ih fun d hd => h d (List.mem_cons_of_mem c hd)
    rw [List.cons_append, literalRest.eq_def]
    split
    · simp_all
    · simp_all
    · rename_i heq
      cases heq
      rw [if_pos hplain, hrest]
      rfl

/-! ## Several lines between double quotes -/

theorem basicLinesRest_spells {c : Char} {cs : List Char} (h : Spells c cs) (rest : List Char) :
    basicLinesRest false (cs ++ rest) = withChar c (basicLinesRest false rest) := by
  cases h with
  | self hplain hquote hslash =>
    have hreturn : c ≠ '\r' := by
      rintro rfl
      cases hplain
    rw [List.singleton_append, basicLinesRest.eq_def]
    split <;> simp_all
  | letter hl =>
    rename_i l
    have hends := endsLine_letter hl rest
    rw [List.cons_append, List.singleton_append, basicLinesRest.eq_def]
    split
    · simp_all
    · simp_all
    · simp_all
    · simp_all
    · simp_all
    · rename_i heq
      cases heq
      cases hl
    · rename_i heq
      cases heq
      cases hl
    · rename_i heq
      cases heq
      simp [hends, hl, withChar?]
    · rename_i hnot heq
      cases heq
      exact absurd rfl hnot
  | point hp =>
    simp only [List.cons_append, List.nil_append, basicLinesRest, hp]
    rfl

theorem basicLinesRest_lineEnd (rest : List Char) :
    basicLinesRest false ('\n' :: rest) = withChar '\n' (basicLinesRest false rest) := by
  simp [basicLinesRest, isPlain]

/-- A quote is a character of the text if no two others follow it. -/
theorem basicLinesRest_quote {rest : List Char} (h : rest.take 2 ≠ ['"', '"']) :
    basicLinesRest false ('"' :: rest) = withChar '"' (basicLinesRest false rest) := by
  rw [basicLinesRest.eq_def]
  split
  · simp_all
  · simp_all
  · simp_all
  · simp_all
  · simp_all
  · simp_all
  · simp_all
  · simp_all
  · rename_i heq
    cases heq
    rfl

/-- Up to two quotes are taken once another character follows them. -/
theorem basicLinesRest_row {row : Nat} (hrow : row ≤ 2) {d : Char} (hd : d ≠ '"')
    {rest cs after : List Char} (h : basicLinesRest false (d :: rest) = some (cs, after)) :
    basicLinesRest false (List.replicate row '"' ++ d :: rest) =
      some (List.replicate row '"' ++ cs, after) := by
  have hone : basicLinesRest false ('"' :: d :: rest) = some ('"' :: cs, after) := by
    rw [basicLinesRest_quote (by simp [hd]), h]
    rfl
  match row, hrow with
  | 0, _ => exact h
  | 1, _ => exact hone
  | 2, _ =>
    show basicLinesRest false ('"' :: '"' :: d :: rest) = some ('"' :: '"' :: cs, after)
    rw [basicLinesRest_quote (by simp [hd]), hone]
    rfl

/-- At the end up to two quotes stand in front of the three that close the text. -/
theorem basicLinesRest_end {row : Nat} (hrow : row ≤ 2) {rest : List Char}
    (hrest : rest.head? ≠ some '"') :
    basicLinesRest false (List.replicate row '"' ++ '"' :: '"' :: '"' :: rest) =
      some (List.replicate row '"', rest) := by
  have hthree : basicLinesRest false ('"' :: '"' :: '"' :: rest) = some ([], rest) := by
    cases rest with
    | nil => simp [basicLinesRest]
    | cons d rest =>
      have hd : d ≠ '"' := by simpa using hrest
      simp [basicLinesRest, hd]
  have hfour : basicLinesRest false ('"' :: '"' :: '"' :: '"' :: rest) = some (['"'], rest) := by
    cases rest with
    | nil => simp [basicLinesRest]
    | cons d rest =>
      have hd : d ≠ '"' := by simpa using hrest
      simp [basicLinesRest, hd]
  match row, hrow with
  | 0, _ => exact hthree
  | 1, _ => exact hfour
  | 2, _ => simp [basicLinesRest]

/-- A spelling begins with no quote. -/
theorem Spells.exists_cons {c : Char} {cs : List Char} (h : Spells c cs) :
    ∃ d ds, cs = d :: ds ∧ d ≠ '"' ∧ d ≠ '\r' ∧ (d = '\n' → c = '\n') := by
  cases h with
  | self hplain hquote hslash =>
    refine ⟨c, [], rfl, hquote, ?_, id⟩
    rintro rfl
    cases hplain
  | letter hl => exact ⟨'\\', _, rfl, by decide, by decide, fun h => absurd h (by decide)⟩
  | point hp => exact ⟨'\\', _, rfl, by decide, by decide, fun h => absurd h (by decide)⟩

/-- **The reader of several lines between double quotes undoes the escapes**, with
the quotes before them that have not been read. -/
theorem basicLinesRest_escapedLines {row : Nat} (hrow : row ≤ 2) (cs : List Char)
    {rest : List Char} (hrest : rest.head? ≠ some '"') :
    basicLinesRest false
        (List.replicate row '"' ++ (escapedLines row cs ++ '"' :: '"' :: '"' :: rest)) =
      some (List.replicate row '"' ++ cs, rest) := by
  induction cs generalizing row with
  | nil =>
    rw [List.append_nil]
    exact basicLinesRest_end hrow hrest
  | cons c cs ih =>
    have hnone := ih (Nat.zero_le 2)
    rw [List.replicate_zero, List.nil_append, List.nil_append] at hnone
    by_cases hquote : c = '"'
    · subst hquote
      by_cases hthird : row = 2
      · subst hthird
        have hslash := basicLinesRest_spells (.letter rfl : Spells '"' ['\\', '"'])
          (escapedLines 0 cs ++ '"' :: '"' :: '"' :: rest)
        rw [hnone] at hslash
        exact basicLinesRest_row hrow (by decide) hslash
      · have hnext := ih (show row + 1 ≤ 2 by omega)
        have htext : escapedLines row ('"' :: cs) = '"' :: escapedLines (row + 1) cs := by
          simp [escapedLines, hthird]
        have hmove : ∀ xs, List.replicate (row + 1) '"' ++ xs =
            List.replicate row '"' ++ '"' :: xs := by
          intro xs
          simp [List.replicate_succ']
        rw [hmove, hmove] at hnext
        rw [htext]
        exact hnext
    · by_cases hline : c = '\n'
      · subst hline
        have hread := basicLinesRest_lineEnd (escapedLines 0 cs ++ '"' :: '"' :: '"' :: rest)
        rw [hnone] at hread
        exact basicLinesRest_row hrow (by decide) hread
      · have htext : escapedLines row (c :: cs) = escaped c ++ escapedLines 0 cs := by
          simp [escapedLines, hquote, hline]
        have hspells := spells_escaped c
        have hread := basicLinesRest_spells hspells
          (escapedLines 0 cs ++ '"' :: '"' :: '"' :: rest)
        obtain ⟨d, ds, hcons, hd, -⟩ := hspells.exists_cons
        rw [hnone, hcons] at hread
        rw [htext, List.append_assoc, hcons]
        exact basicLinesRest_row hrow hd hread

/-! ## Several lines between single quotes -/

theorem literalLinesRest_end {rest : List Char} (hrest : rest.head? ≠ some '\x27') :
    literalLinesRest ('\x27' :: '\x27' :: '\x27' :: rest) = some ([], rest) := by
  cases rest with
  | nil => simp [literalLinesRest]
  | cons d rest =>
    have hd : d ≠ '\x27' := by simpa using hrest
    simp [literalLinesRest, hd]

/-- A character is one of the text if it is not the first of three quotes. -/
theorem literalLinesRest_cons {c : Char} (hc : isPlain c = true ∨ c = '\n') {rest : List Char}
    (h : (c :: rest).take 3 ≠ ['\x27', '\x27', '\x27']) :
    literalLinesRest (c :: rest) = withChar c (literalLinesRest rest) := by
  have hreturn : c ≠ '\r' := by
    rintro rfl
    revert hc
    decide
  rw [literalLinesRest.eq_def]
  split
  · simp_all
  · simp_all
  · simp_all
  · simp_all
  · simp_all
  · rename_i heq
    cases heq
    rw [if_pos (by simpa using hc)]

theorem hasTriple_tail {quote c : Char} {cs : List Char} (h : hasTriple quote (c :: cs) = false) :
    hasTriple quote cs = false := by
  match cs with
  | [] => rfl
  | [d] => rfl
  | d :: e :: cs =>
    rw [hasTriple, Bool.or_eq_false_iff] at h
    exact h.2

/-- **The reader of several lines between single quotes takes the text as it is**, up
to the first three quotes in a row. -/
theorem literalLinesRest_append {cs : List Char} (hcs : ∀ c ∈ cs, isPlain c = true ∨ c = '\n')
    (htriple : hasTriple '\x27' cs = false) {rest : List Char}
    (hrest : rest.head? ≠ some '\x27') :
    literalLinesRest (cs ++ '\x27' :: '\x27' :: '\x27' :: rest) = some (cs, rest) := by
  induction cs with
  | nil => exact literalLinesRest_end hrest
  | cons c cs ih =>
    have hread := ih (fun d hd => hcs d (List.mem_cons_of_mem c hd)) (hasTriple_tail htriple)
    by_cases hone : c = '\x27' ∧ cs = []
    · obtain ⟨rfl, rfl⟩ := hone
      cases rest with
      | nil => simp [literalLinesRest]
      | cons d rest =>
        have hd : d ≠ '\x27' := by simpa using hrest
        simp [literalLinesRest, hd]
    · by_cases htwo : c = '\x27' ∧ cs = ['\x27']
      · obtain ⟨rfl, rfl⟩ := htwo
        simp [literalLinesRest]
      · rw [List.cons_append, literalLinesRest_cons (hcs c List.mem_cons_self) ?_, hread]
        · rfl
        · intro htake
          match cs with
          | [] => simp_all
          | [d] => simp_all
          | d :: e :: cs => simp_all [hasTriple]

/-! ## All forms -/

theorem plain_of_any_isControl {cs : List Char} (h : (!cs.any isControl) = true) :
    ∀ c ∈ cs, isPlain c = true ∨ c = '\n' := by
  intro c hc
  have hcontrol : isControl c = false := by
    simp only [Bool.not_eq_true', List.any_eq_false] at h
    simpa using h c hc
  simp only [isControl, Bool.and_eq_false_iff, Bool.not_eq_false', ne_eq, decide_not,
    decide_eq_true_eq] at hcontrol
  exact hcontrol

/-- Whether a text can be written in a form and be read from it. -/
def Form.Suits (cs : List Char) : Form → Prop
  | .basic => True
  | .literal => ∀ c ∈ cs, isPlain c = true ∧ c ≠ '\x27'
  | .basicLines => True
  | .literalLines => (∀ c ∈ cs, isPlain c = true ∨ c = '\n') ∧ hasTriple '\x27' cs = false

/-- **The form of a text is chosen to suit it.** -/
theorem suits_formOf (cs : List Char) : (formOf cs).Suits cs := by
  unfold formOf
  dsimp only
  split
  · trivial
  split
  · rename_i h
    rw [Bool.and_eq_true, Bool.and_eq_true] at h
    obtain ⟨⟨hplain, hquote⟩, hline⟩ := h
    simp only [Bool.not_eq_true', List.contains_eq_mem, decide_eq_false_iff_not] at hquote hline
    intro c hc
    refine ⟨(plain_of_any_isControl hplain c hc).resolve_right ?_, ?_⟩
    · rintro rfl
      exact hline hc
    · rintro rfl
      exact hquote hc
  split
  · trivial
  split
  · rename_i h
    rw [Bool.and_eq_true] at h
    exact ⟨plain_of_any_isControl h.1, by simpa using h.2⟩
  split <;> trivial

/-- The line end in front of several lines is passed over, and nothing else is. -/
theorem skipLineEnd_opening {cs text : List Char}
    (h : '\n' ∉ cs → ∀ c ∈ text.head?, c ≠ '\n' ∧ c ≠ '\r') :
    skipLineEnd (opening cs ++ text) = text := by
  unfold opening
  split
  · rfl
  · rename_i hline
    have hhead := h (by simpa using hline)
    unfold skipLineEnd
    rw [List.nil_append, lineEnd?.eq_def]
    split
    · exact absurd rfl (hhead _ rfl).1
    · exact absurd rfl (hhead _ rfl).2
    · rfl

theorem head?_escapedLines {cs : List Char} (h : '\n' ∉ cs) (rest : List Char) :
    ∀ c ∈ (escapedLines 0 cs ++ '"' :: rest).head?, c ≠ '\n' ∧ c ≠ '\r' := by
  intro d hd
  cases cs with
  | nil =>
    cases hd
    exact ⟨by decide, by decide⟩
  | cons c cs =>
    have hc : c ≠ '\n' := by
      rintro rfl
      exact h List.mem_cons_self
    by_cases hquote : c = '"'
    · subst hquote
      cases hd
      exact ⟨by decide, by decide⟩
    · obtain ⟨e, es, hcons, -, hreturn, hline⟩ := (spells_escaped c).exists_cons
      have htext : escapedLines 0 (c :: cs) = e :: (es ++ escapedLines 0 cs) := by
        simp [escapedLines, hquote, hc, hcons]
      rw [htext] at hd
      cases hd
      exact ⟨fun he => hc (hline he), hreturn⟩

theorem readString_double {text : List Char} (h : text.take 2 ≠ ['"', '"']) :
    readString ('"' :: text) = basicRest text := by
  rw [readString.eq_def]
  split
  · simp_all
  · simp_all
  · rename_i heq
    cases heq
    rfl
  · simp_all
  · simp_all

theorem readString_single {text : List Char} (h : text.take 2 ≠ ['\x27', '\x27']) :
    readString ('\x27' :: text) = literalRest text := by
  rw [readString.eq_def]
  split
  · simp_all
  · simp_all
  · simp_all
  · rename_i heq
    cases heq
    rfl
  · simp_all

/-- **Any text is read as it was written**, up to what stands behind it. -/
theorem readString_writeString (cs : List Char) {rest : List Char}
    (hdouble : rest.head? ≠ some '"') (hsingle : rest.head? ≠ some '\x27') :
    readString (writeString cs ++ rest) = some (cs, rest) := by
  have hsuits := suits_formOf cs
  unfold writeString
  cases hform : formOf cs with
  | basic =>
    have hfirst : (cs.flatMap escaped ++ '"' :: rest).take 2 ≠ ['"', '"'] := by
      cases cs with
      | nil =>
        cases rest with
        | nil => simp
        | cons d rest => simpa using hdouble
      | cons c cs =>
        obtain ⟨d, ds, hcons, hd, -⟩ := (spells_escaped c).exists_cons
        simp [hcons, hd]
    have hread := readString_double hfirst
    rw [basicRest_escaped] at hread
    simpa using hread
  | literal =>
    rw [hform] at hsuits
    have hfirst : (cs ++ '\x27' :: rest).take 2 ≠ ['\x27', '\x27'] := by
      cases cs with
      | nil =>
        cases rest with
        | nil => simp
        | cons d rest => simpa using hsingle
      | cons c cs => simp [(hsuits c List.mem_cons_self).2]
    have hread := readString_single hfirst
    rw [literalRest_append hsuits] at hread
    simpa using hread
  | basicLines =>
    have hskip : skipLineEnd (opening cs ++ (escapedLines 0 cs ++ '"' :: '"' :: '"' :: rest)) =
        escapedLines 0 cs ++ '"' :: '"' :: '"' :: rest :=
      skipLineEnd_opening fun hline => head?_escapedLines hline _
    have hread := basicLinesRest_escapedLines (Nat.zero_le 2) cs hdouble
    rw [List.replicate_zero, List.nil_append, List.nil_append, ← hskip] at hread
    simpa [readString] using hread
  | literalLines =>
    rw [hform] at hsuits
    obtain ⟨hplain, htriple⟩ := hsuits
    have hskip : skipLineEnd (opening cs ++ (cs ++ '\x27' :: '\x27' :: '\x27' :: rest)) =
        cs ++ '\x27' :: '\x27' :: '\x27' :: rest := by
      refine skipLineEnd_opening fun hline c hc => ?_
      cases cs with
      | nil =>
        cases hc
        exact ⟨by decide, by decide⟩
      | cons d cs =>
        cases hc
        refine ⟨fun h => hline (h ▸ List.mem_cons_self), ?_⟩
        rintro rfl
        exact absurd (hplain _ List.mem_cons_self) (by decide)
    have hread := literalLinesRest_append hplain htriple hsingle
    rw [← hskip] at hread
    simpa [readString] using hread

end NetWatch.Toml
