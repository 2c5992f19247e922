/-
NetWatch.Proofs.Toml.Lines — lines of documents are read as they were written.

A document is a row of lines, and each is read for itself: what a line is read
as does not rest on the lines behind it (`ReadsAs`). A line with a bare key and
the spelling of a value reads as that pair (`readsAs_pair`), a header as the
table of its name, and an empty line as nothing. So a document is read line by
line (`statements_lines`).

A number is the last thing that digits are tried as. They are no date and no
time of day, because no dash and no colon follows them, and no double, because
no point does.
-/
import NetWatch.Proofs.Json.Numbers
import NetWatch.Proofs.Toml.Strings
import NetWatch.Toml.Document

namespace NetWatch.Toml

open Json

/-! ## Digits -/

theorem moreDigits_append {ds : List Char} (h : ∀ c ∈ ds, c.isDigit = true) (rest : List Char) :
    moreDigits Char.isDigit (ds ++ '\n' :: rest) = (ds, '\n' :: rest) := by
  induction ds with
  | nil =>
    cases rest with
    | nil => rfl
    | cons c rest => rfl
  | cons d ds ih =>
    have hd := h d List.mem_cons_self
    have hrest := ih fun c hc => h c (List.mem_cons_of_mem d hc)
    cases ds with
    | nil =>
      rw [List.nil_append] at hrest
      simp [moreDigits, hd, hrest]
    | cons e ds =>
      rw [List.cons_append] at hrest
      simp [moreDigits, hd, hrest]

theorem digitRun_append {ds : List Char} (h : AreDigits ds) (rest : List Char) :
    digitRun Char.isDigit (ds ++ '\n' :: rest) = some (ds, '\n' :: rest) := by
  obtain ⟨hne, hall⟩ := h
  cases ds with
  | nil => exact absurd rfl hne
  | cons d ds =>
    have hmore := moreDigits_append (fun c hc => hall c (List.mem_cons_of_mem d hc)) rest
    simp [digitRun, hall d List.mem_cons_self, hmore]

theorem decimalRun_decimal (n : Nat) (rest : List Char) :
    decimalRun (Text.decimal n ++ '\n' :: rest) = some (Text.decimal n, '\n' :: rest) := by
  by_cases hn : n = 0
  · subst hn
    simp [Text.decimal, Text.digitChar, decimalRun]
  · have hrun := digitRun_append (areDigits_decimal n) rest
    rw [decimalRun.eq_def]
    split
    · rename_i heq
      have hhead : (Text.decimal n).head? = some '0' := by
        cases hd : Text.decimal n with
        | nil => exact absurd hd (Text.decimal_ne_nil n)
        | cons d ds =>
          rw [hd] at heq
          cases heq
          rfl
      exact absurd hhead (head?_decimal hn)
    · exact hrun

theorem hexDigit?_digitChar {d : Nat} (h : d < 10) :
    Text.Hex.digit? (Text.digitChar d) = some d := by
  have hall : ∀ e ∈ List.range 10, Text.Hex.digit? (Text.digitChar e) = some e := by decide
  exact hall d (List.mem_range.2 h)

theorem numberOf_decimal (n : Nat) : numberOf 10 (Text.decimal n) = n := by
  induction n using Nat.strongRecOn with
  | ind n ih =>
    rw [Text.decimal]
    split
    · rename_i hlt
      simp [numberOf, hexDigit?_digitChar hlt]
    · have hrest := ih (n / 10) (by omega)
      have hlast := hexDigit?_digitChar (show n % 10 < 10 by omega)
      unfold numberOf at hrest ⊢
      rw [List.foldl_append, hrest]
      simp only [List.foldl_cons, List.foldl_nil, hlast, Option.getD_some]
      omega

/-- A number begins with a digit. -/
theorem exists_cons_decimal (n : Nat) :
    ∃ d ds, Text.decimal n = d :: ds ∧ d.isDigit = true ∧ ∀ c ∈ ds, c.isDigit = true := by
  have hall := isDigit_of_mem_decimal (n := n)
  cases hd : Text.decimal n with
  | nil => exact absurd hd (Text.decimal_ne_nil n)
  | cons d ds =>
    rw [hd] at hall
    exact ⟨d, ds, rfl, hall d List.mem_cons_self, fun c hc => hall c (List.mem_cons_of_mem d hc)⟩

/-! ## No moment -/

theorem decimal?_lineEnd (xs ys : List Char) : Text.decimal? (xs ++ '\n' :: ys) = none := by
  have hline : Text.digit? '\n' = none := by decide
  have hnone : Text.ofDigits 0 (xs ++ '\n' :: ys) = none := by
    rw [Text.ofDigits_append]
    cases Text.ofDigits 0 xs with
    | none => rfl
    | some n => simp [Text.ofDigits, hline]
  unfold Text.decimal?
  split
  · rfl
  · exact hnone

/-- Digits up to the end of a line are not parted by any mark. -/
theorem behind_exactly {ds : List Char} (h : ∀ c ∈ ds, c.isDigit = true) {mark : Char}
    (hdigit : mark.isDigit = false) (hline : mark ≠ '\n') {width n : Nat} {rest after : List Char}
    (hread : exactly width (ds ++ '\n' :: rest) = some (n, after)) : behind mark after = none := by
  unfold exactly at hread
  by_cases hwidth : width ≤ ds.length
  · have hafter : after = ds.drop width ++ '\n' :: rest := by
      rw [← List.drop_append_of_le_length hwidth]
      cases hdecimal : Text.decimal? ((ds ++ '\n' :: rest).take width) with
      | none => simp [hdecimal] at hread
      | some m =>
        simp only [hdecimal, Option.bind_eq_bind, Option.bind_some] at hread
        split at hread
        · cases hread
          rfl
        · cases hread
    rw [hafter]
    cases hdrop : ds.drop width with
    | nil => simp [behind, hline]
    | cons d more =>
      have hd : d.isDigit = true := h d (List.mem_of_mem_drop (hdrop ▸ List.mem_cons_self))
      have hne : mark ≠ d := by
        rintro rfl
        rw [hdigit] at hd
        cases hd
      simp [behind, hne]
  · have htake : (ds ++ '\n' :: rest).take width =
        ds ++ '\n' :: rest.take (width - ds.length - 1) := by
      obtain ⟨k, rfl⟩ : ∃ k, width = ds.length + (k + 1) := ⟨width - ds.length - 1, by omega⟩
      rw [List.take_length_add_append, List.take_succ_cons,
        show ds.length + (k + 1) - ds.length - 1 = k by omega]
    rw [htake, decimal?_lineEnd] at hread
    cases hread

/-- **A whole number is no date and no time of day.** -/
theorem moment_digits {ds : List Char} (h : ∀ c ∈ ds, c.isDigit = true) (rest : List Char) :
    moment (ds ++ '\n' :: rest) = none := by
  have hdate : dateRest (ds ++ '\n' :: rest) = none := by
    unfold dateRest
    cases hread : exactly 4 (ds ++ '\n' :: rest) with
    | none => rfl
    | some r =>
      have hmark : behind '-' r.2 = none := behind_exactly h rfl (by decide) hread
      simp [hmark]
  have htime : timeRest (ds ++ '\n' :: rest) = none := by
    unfold timeRest minuteRest
    cases hread : exactly 2 (ds ++ '\n' :: rest) with
    | none => rfl
    | some r =>
      have hmark : behind ':' r.2 = none := behind_exactly h rfl (by decide) hread
      simp [hmark]
  simp [moment, hdate, htime]

/-! ## Values -/

theorem ne_of_isDigit {d c : Char} (hd : d.isDigit = true) (hc : c.isDigit = false) : d ≠ c := by
  rintro rfl
  rw [hc] at hd
  cases hd

/-- **A whole number is read as itself** if 64 bits with a sign can hold it. -/
theorem scalar_decimal {n : Nat} (hn : n ≤ 9223372036854775807) (rest : List Char) :
    scalar (Text.decimal n ++ '\n' :: rest) = some (.nat n, '\n' :: rest) := by
  have hmoment := moment_digits (isDigit_of_mem_decimal (n := n)) rest
  have hrun := decimalRun_decimal n rest
  have hnumber := numberOf_decimal n
  obtain ⟨d, ds, hcons, hd, hds⟩ := exists_cons_decimal n
  -- neither what begins a number nor what follows its first digit is a mark
  have hsecond : ∀ {c more}, ds ++ '\n' :: rest = c :: more → c.isDigit = true ∨ c = '\n' := by
    intro c more heq
    cases ds with
    | nil =>
      cases heq
      exact .inr rfl
    | cons e ds =>
      cases heq
      exact .inl (hds _ List.mem_cons_self)
  rw [hcons, List.cons_append] at hmoment hrun ⊢
  rw [hcons] at hnumber
  generalize ds ++ '\n' :: rest = tail at *
  have hsign : sign (d :: tail) = (false, d :: tail) := by
    rw [sign.eq_def]
    split
    · rename_i heq
      cases heq
      cases hd
    · rename_i heq
      cases heq
      cases hd
    · rfl
  have hfloat : decimalFloat (d :: tail) = none := by
    simp [decimalFloat, hsign, hrun, fraction, exponent]
  have hnamed : namedFloat (d :: tail) = none := by
    unfold namedFloat
    rw [hsign]
    dsimp only
    split
    · rename_i heq
      cases heq
      cases hd
    · rename_i heq
      cases heq
      cases hd
    · rfl
  have hinteger : integer (d :: tail) = some (.nat n, '\n' :: rest) := by
    rw [integer.eq_def]
    split
    · rename_i heq
      cases heq
      exact absurd (hsecond rfl) (by decide)
    · rename_i heq
      cases heq
      exact absurd (hsecond rfl) (by decide)
    · rename_i heq
      cases heq
      exact absurd (hsecond rfl) (by decide)
    · have hfitting : fitting n = some (.int n) := if_pos ⟨by omega, by omega⟩
      simp [hsign, hrun, hnumber, hfitting, Value.nat, Value.int]
  rw [scalar.eq_def]
  split
  · rename_i heq
    cases heq
    cases hd
  · rename_i heq
    cases heq
    cases hd
  · rename_i heq
    cases heq
    cases hd
  · rename_i heq
    cases heq
    cases hd
  · rw [hmoment, hfloat, hnamed, hinteger]
    rfl

/-- A text begins with a quote. -/
theorem exists_cons_writeString (cs : List Char) :
    ∃ q text, writeString cs = q :: text ∧ (q = '"' ∨ q = '\x27') := by
  unfold writeString
  split
  · exact ⟨_, _, rfl, .inl rfl⟩
  · exact ⟨_, _, rfl, .inr rfl⟩
  · exact ⟨_, _, rfl, .inl rfl⟩
  · exact ⟨_, _, rfl, .inr rfl⟩

/-- **A text is read as itself.** -/
theorem scalar_writeString (cs rest : List Char) :
    scalar (writeString cs ++ '\n' :: rest) = some (.string (String.ofList cs), '\n' :: rest) := by
  have hread : readString (writeString cs ++ '\n' :: rest) = some (cs, '\n' :: rest) :=
    readString_writeString cs (by simp) (by simp)
  obtain ⟨q, text, hcons, rfl | rfl⟩ := exists_cons_writeString cs
  · rw [hcons, List.cons_append] at hread ⊢
    simp [scalar, hread]
  · rw [hcons, List.cons_append] at hread ⊢
    simp [scalar, hread]

/-- Whether a value is read from a text that stands at the end of a line. -/
structure Spelled (text : List Char) (v : Value) : Prop where
  read (rest : List Char) : value maximalDepth (text ++ '\n' :: rest) = some (v, '\n' :: rest)
  /-- No blank stands in front of it. -/
  head : ∀ c ∈ text.head?, isSpace c = false
  ne_nil : text ≠ []

/-- What is no array and no inline table is read as a single value. -/
theorem value_eq_scalar {c : Char} {cs : List Char} (harray : c ≠ '[') (htable : c ≠ '{') :
    value maximalDepth (c :: cs) = scalar (c :: cs) := by
  rw [show maximalDepth = 78 + 1 from rfl, value.eq_def]
  dsimp only
  split
  · rename_i heq
    cases heq
    exact absurd rfl harray
  · rename_i heq
    cases heq
    exact absurd rfl htable
  · rfl

theorem spelled_decimal {n : Nat} (hn : n ≤ 9223372036854775807) :
    Spelled (Text.decimal n) (.nat n) := by
  obtain ⟨d, ds, hcons, hd, -⟩ := exists_cons_decimal n
  have hspace : isSpace d = false := by
    simp [isSpace, ne_of_isDigit hd (c := ' ') rfl, ne_of_isDigit hd (c := '\t') rfl]
  refine ⟨fun rest => ?_, ?_, Text.decimal_ne_nil n⟩
  · have hread := scalar_decimal hn rest
    rw [hcons, List.cons_append] at hread ⊢
    rw [value_eq_scalar (ne_of_isDigit hd rfl) (ne_of_isDigit hd rfl), hread]
  · rw [hcons]
    rintro c ⟨⟩
    exact hspace

theorem spelled_writeString (cs : List Char) :
    Spelled (writeString cs) (.string (String.ofList cs)) := by
  obtain ⟨q, text, hcons, hq⟩ := exists_cons_writeString cs
  refine ⟨fun rest => ?_, ?_, by simp [hcons]⟩
  · have hread := scalar_writeString cs rest
    rw [hcons, List.cons_append] at hread ⊢
    rcases hq with rfl | rfl <;> rw [value_eq_scalar (by decide) (by decide), hread]
  · rw [hcons]
    rintro c ⟨⟩
    rcases hq with rfl | rfl <;> rfl

/-! ## Lines -/

/-- Whether a text is read as a statement, whatever stands behind it. -/
structure ReadsAs (text : List Char) (s : Statement) : Prop where
  read (rest : List Char) : statement (text ++ rest) = some (s, rest)
  ne_nil : text ≠ []

/-- A bare key, behind which there is no dot, stands for itself. -/
structure IsBare (name : String) : Prop where
  chars : name.toList.all isKeyChar = true
  ne_nil : name.toList ≠ []

theorem IsBare.exists_cons {name : String} (h : IsBare name) :
    ∃ c cs, name.toList = c :: cs ∧ isKeyChar c = true := by
  have hchars := List.all_eq_true.1 h.chars
  cases hname : name.toList with
  | nil => exact absurd hname h.ne_nil
  | cons c cs =>
    rw [hname] at hchars
    exact ⟨c, cs, rfl, hchars c List.mem_cons_self⟩

theorem ne_of_isKeyChar {d c : Char} (hd : isKeyChar d = true) (hc : isKeyChar c = false) :
    d ≠ c := by
  rintro rfl
  rw [hc] at hd
  cases hd

theorem isSpace_of_isKeyChar {c : Char} (h : isKeyChar c = true) : isSpace c = false := by
  simp [isSpace, ne_of_isKeyChar h (c := ' ') rfl, ne_of_isKeyChar h (c := '\t') rfl]

/-- A bare key up to the first character that cannot be part of it. -/
theorem keyPath_bare {name : String} (h : IsBare name) {rest : List Char}
    (hrest : ∀ c ∈ rest.head?, isKeyChar c = false) (hdot : ∀ more, skipSpace rest ≠ '.' :: more) :
    keyPath (name.toList ++ rest) = some ([], name, skipSpace rest) := by
  have hchars := List.all_eq_true.1 h.chars
  obtain ⟨c, cs, hcons, hc⟩ := h.exists_cons
  have hskip : skipSpace (name.toList ++ rest) = name.toList ++ rest := by
    simp [skipSpace, hcons, isSpace_of_isKeyChar hc]
  have hstop : rest.takeWhile isKeyChar = [] ∧ rest.dropWhile isKeyChar = rest := by
    cases rest with
    | nil => exact ⟨rfl, rfl⟩
    | cons d rest => simp [hrest d rfl]
  have htake : (name.toList ++ rest).takeWhile isKeyChar = name.toList := by
    rw [List.takeWhile_append_of_pos hchars, hstop.1, List.append_nil]
  have hdrop : (name.toList ++ rest).dropWhile isKeyChar = rest := by
    rw [List.dropWhile_append_of_pos hchars, hstop.2]
  have hkey : key (name.toList ++ rest) = some (name, rest) := by
    rw [key.eq_def]
    split
    · rename_i heq
      rw [hcons] at heq
      cases heq
      cases hc
    · rename_i heq
      rw [hcons] at heq
      cases heq
      cases hc
    · rw [htake, hdrop]
      split
      · rename_i hnil
        exact absurd hnil h.ne_nil
      · rw [String.ofList_toList]
  have hkeys : keys (name.toList ++ rest) = some ([name], skipSpace rest) := by
    rw [keys, hskip, hkey]
    dsimp only
    split
    · rename_i more heq
      exact absurd heq (hdot more)
    · rfl
  simp [keyPath, hkeys, maximalDepth]

/-- **A line with a key and a value is read as that pair.** -/
theorem readsAs_pair {name : String} (hname : IsBare name) {text : List Char} {v : Value}
    (hv : Spelled text v) :
    ReadsAs (name.toList ++ [' ', '=', ' '] ++ text ++ ['\n']) (.pair [] name v) := by
  refine ⟨fun rest => ?_, by simp⟩
  obtain ⟨c, cs, hcons, hc⟩ := hname.exists_cons
  have hline : name.toList ++ [' ', '=', ' '] ++ text ++ ['\n'] ++ rest =
      name.toList ++ ' ' :: '=' :: ' ' :: (text ++ '\n' :: rest) := by
    simp
  rw [hline]
  have hpath : keyPath (name.toList ++ ' ' :: '=' :: ' ' :: (text ++ '\n' :: rest)) =
      some ([], name, '=' :: ' ' :: (text ++ '\n' :: rest)) := by
    have hend : skipSpace (' ' :: '=' :: ' ' :: (text ++ '\n' :: rest)) =
        '=' :: ' ' :: (text ++ '\n' :: rest) := rfl
    rw [← hend]
    refine keyPath_bare hname ?_ ?_
    · rintro d ⟨⟩
      rfl
    · intro more heq
      cases heq
  have hvalue : skipSpace (' ' :: (text ++ '\n' :: rest)) = text ++ '\n' :: rest := by
    have hhead := hv.head
    cases ht : text with
    | nil => exact absurd ht hv.ne_nil
    | cons d ds =>
      rw [ht] at hhead
      have hblank : isSpace ' ' = true := rfl
      simp [skipSpace, hblank, hhead d rfl]
  have hpair : pair (value maximalDepth)
      (name.toList ++ ' ' :: '=' :: ' ' :: (text ++ '\n' :: rest)) =
      some (([], name, v), '\n' :: rest) := by
    rw [pair, hpath]
    simp only [hvalue, hv.read rest, Option.map_some]
    rfl
  have hbody : statementBody (name.toList ++ ' ' :: '=' :: ' ' :: (text ++ '\n' :: rest)) =
      some (.pair [] name v, '\n' :: rest) := by
    have hskip : skipSpace (name.toList ++ ' ' :: '=' :: ' ' :: (text ++ '\n' :: rest)) =
        name.toList ++ ' ' :: '=' :: ' ' :: (text ++ '\n' :: rest) := by
      simp [skipSpace, hcons, isSpace_of_isKeyChar hc]
    unfold statementBody
    rw [hskip]
    split
    · rename_i heq
      rw [hcons] at heq
      cases heq
    · rename_i heq
      rw [hcons] at heq
      cases heq
      cases hc
    · rename_i heq
      rw [hcons] at heq
      cases heq
      cases hc
    · rename_i heq
      rw [hcons] at heq
      cases heq
      cases hc
    · rename_i heq
      rw [hcons] at heq
      cases heq
      cases hc
    · rw [hpair]
      rfl
  rw [statement, hbody]
  rfl

/-- **A header is read as the table of its name.** -/
theorem readsAs_header {name : String} (hname : IsBare name) :
    ReadsAs ('[' :: name.toList ++ [']', '\n']) (.table [] name) := by
  refine ⟨fun rest => ?_, by simp⟩
  obtain ⟨c, cs, hcons, hc⟩ := hname.exists_cons
  have hpath : keyPath (name.toList ++ ']' :: '\n' :: rest) =
      some ([], name, ']' :: '\n' :: rest) := by
    have hend : skipSpace (']' :: '\n' :: rest) = ']' :: '\n' :: rest := rfl
    rw [← hend]
    refine keyPath_bare hname ?_ ?_
    · rintro d ⟨⟩
      rfl
    · intro more heq
      cases heq
  have hheader : header (name.toList ++ ']' :: '\n' :: rest) =
      some (.table [] name, '\n' :: rest) := by
    rw [header.eq_def]
    split
    · rename_i heq
      rw [hcons] at heq
      cases heq
      cases hc
    · rw [hpath]
      rfl
  have hline : '[' :: name.toList ++ [']', '\n'] ++ rest =
      '[' :: (name.toList ++ ']' :: '\n' :: rest) := by
    simp
  have hbody : statementBody ('[' :: (name.toList ++ ']' :: '\n' :: rest)) =
      some (.table [] name, '\n' :: rest) :=
    hheader
  rw [hline, statement, hbody]
  rfl

theorem readsAs_blank : ReadsAs ['\n'] .blank :=
  ⟨fun _ => rfl, by simp⟩

/-! ## Documents -/

/-- Texts and the statements that they are read as, one after the other. -/
inductive Lines : List Char → List Statement → Prop where
  | nil : Lines [] []
  | cons {text rest : List Char} {s : Statement} {ss : List Statement} (h : ReadsAs text s)
    (hrest : Lines rest ss) : Lines (text ++ rest) (s :: ss)

/-- **A document is read line by line.** -/
theorem statements_lines {text : List Char} {ss : List Statement} (h : Lines text ss) :
    statements text = some ss := by
  induction h with
  | nil =>
    rw [statements]
  | @cons text rest s ss hline _ ih =>
    have hread := hline.read rest
    cases htext : text with
    | nil => exact absurd htext hline.ne_nil
    | cons c cs =>
      rw [htext, List.cons_append] at hread
      have hlength : rest.length < (cs ++ rest).length + 1 := by
        rw [List.length_append]
        omega
      rw [List.cons_append, statements, hread]
      simp only [if_pos hlength, ih, Option.map_some]

end NetWatch.Toml
