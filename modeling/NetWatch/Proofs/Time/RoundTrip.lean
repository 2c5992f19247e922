/-
NetWatch.Proofs.Time.RoundTrip — a timestamp is read as it was written.

Every timestamp has a text, and the text is read as that timestamp
(`Rfc3339.parse?_format`): in any year, with or without a fraction of a second,
leap seconds at the end of a minute included. Any other leap second is written
as the second after it, and read as that (`Timestamp.carried`).

The parts of the text are numbers that fill their places with zeros. Each is
read up to the mark behind it, or up to the width it has; what follows is left
for the next part, so the parts are put together one after the other
(`Rfc3339.date_dateText`, `Rfc3339.time_timeText`). What is read is a day of the
calendar (`Date.valid_ofDayNumber`) and a second of that day, and there is one
moment at them.
-/
import NetWatch.Proofs.Json.Numbers
import NetWatch.Proofs.Time.Calendar
import NetWatch.Time.Rfc3339
import Mathlib.Algebra.Group.Nat.Defs

namespace NetWatch

open Json (AreDigits isDigit_of_mem_decimal)

/-! ## Leap seconds within a minute -/

namespace Timestamp

/-- The moment that the text of a moment stands for: a leap second that does not end a minute is
carried over to the second after it. -/
def carried (t : Timestamp) : Timestamp :=
  if h : 1000000000 ≤ t.nanos ∧ t.seconds % 60 ≠ 59 then
    { seconds := t.seconds + 1
      nanos := t.nanos - 1000000000
      nanos_lt := by have := t.nanos_lt; omega
      first_le := by have := t.first_le; omega
      le_last := by have := t.le_last; omega }
  else t

theorem seconds_carried (t : Timestamp) : t.carried.seconds =
    if 1000000000 ≤ t.nanos ∧ t.seconds % 60 ≠ 59 then t.seconds + 1 else t.seconds := by
  unfold carried
  split <;> rfl

theorem nanos_carried (t : Timestamp) : t.carried.nanos =
    if 1000000000 ≤ t.nanos ∧ t.seconds % 60 ≠ 59 then t.nanos - 1000000000 else t.nanos := by
  unfold carried
  split <;> rfl

theorem carried_eq_self_iff {t : Timestamp} :
    t.carried = t ↔ (t.isLeap = true → t.seconds % 60 = 59) := by
  have hleap : t.isLeap = true ↔ 1000000000 ≤ t.nanos := by simp [isLeap]
  rw [hleap]
  constructor
  · intro h hnanos
    have hseconds := t.seconds_carried
    rw [h] at hseconds
    split at hseconds <;> omega
  · intro h
    unfold carried
    rw [dif_neg]
    omega

end Timestamp

/-! ## Numbers that fill their places -/

namespace Text

/-- A number below a power of ten has no more digits than that. -/
theorem length_decimal_le {n width : Nat} (hpos : 0 < width) (h : n < 10 ^ width) :
    (decimal n).length ≤ width := by
  induction width generalizing n with
  | zero => omega
  | succ width ih =>
    rw [decimal]
    split
    · simp
    · rename_i hlong
      have hrest : n / 10 < 10 ^ width := by
        rw [Nat.div_lt_iff_lt_mul (by decide), ← Nat.pow_succ]
        exact h
      have hwidth : 0 < width := by
        rcases Nat.eq_zero_or_pos width with rfl | hwidth
        · omega
        · exact hwidth
      have hdigits := ih hwidth hrest
      rw [List.length_append, List.length_singleton]
      omega

theorem length_padded {n width : Nat} (hpos : 0 < width) (h : n < 10 ^ width) :
    (padded width n).length = width := by
  have hlength := length_decimal_le hpos h
  rw [padded, List.length_append, List.length_replicate]
  omega

theorem areDigits_padded (width n : Nat) : AreDigits (padded width n) := by
  refine ⟨fun hnil => decimal_ne_nil n (List.append_eq_nil_iff.1 hnil).2, fun c hc => ?_⟩
  rcases List.mem_append.1 hc with hzero | hdigit
  · rw [List.eq_of_mem_replicate hzero]
    rfl
  · exact isDigit_of_mem_decimal c hdigit

theorem ofDigits_zeros (count : Nat) : ofDigits 0 (List.replicate count '0') = some 0 := by
  induction count with
  | zero => rfl
  | succ count ih => exact ih

/-- **Zeros in front do not change a number.** -/
theorem decimal?_padded (width n : Nat) : decimal? (padded width n) = some n := by
  have hne := (areDigits_padded width n).1
  have hdigits : ofDigits 0 (padded width n) = some n := by
    rw [padded, ofDigits_append, ofDigits_zeros]
    exact ofDigits_decimal n
  unfold decimal?
  split
  · contradiction
  · exact hdigits

theorem isBlank_of_isDigit {c : Char} (h : c.isDigit = true) : isBlank c = false := by
  simp only [Char.isDigit, Bool.and_eq_true, decide_eq_true_eq] at h
  have hlow : 48 ≤ c.toNat := h.1
  have hhigh : c.toNat ≤ 57 := h.2
  simp only [isBlank, Bool.or_eq_false_iff, Bool.and_eq_false_iff, decide_eq_false_iff_not,
    beq_eq_false_iff_ne]
  omega

theorem trimStart_of_head {cs : List Char} (h : ∀ c ∈ cs.head?, isBlank c = false) :
    trimStart cs = cs := by
  cases cs with
  | nil => rfl
  | cons c rest => simp [trimStart, h c rfl]

end Text

open Text

/-- Digits have no blanks before them. -/
theorem trimStart_digits {ds : List Char} (h : AreDigits ds) (rest : List Char) :
    trimStart (ds ++ rest) = ds ++ rest := by
  refine trimStart_of_head fun c hc => ?_
  cases ds with
  | nil => exact absurd rfl h.1
  | cons d ds =>
    obtain rfl : d = c := Option.some.inj hc
    exact isBlank_of_isDigit (h.2 d List.mem_cons_self)

namespace Rfc3339

/-- **Digits are read** if there is room for them, and either no room for more or no more of
them. -/
theorem digits_append {width : Nat} {ds : List Char} (hds : AreDigits ds) {n : Nat}
    (hn : decimal? ds = some n) (hroom : ds.length ≤ width) {rest : List Char}
    (hstop : ds.length = width ∨ ∀ c ∈ rest.head?, c.isDigit = false) :
    digits width (ds ++ rest) = some (n, rest) := by
  have hrest : (rest.take (width - ds.length)).takeWhile Char.isDigit = [] := by
    rcases hstop with hfull | hmark
    · rw [hfull, Nat.sub_self]
      rfl
    · cases rest with
      | nil => rw [List.take_nil]; rfl
      | cons c rest =>
        cases width - ds.length with
        | zero => rfl
        | succ k => simp [hmark c rfl]
  have hrun : ((ds ++ rest).take width).takeWhile Char.isDigit = ds := by
    rw [List.take_append, List.take_of_length_le hroom, List.takeWhile_append_of_pos hds.2, hrest,
      List.append_nil]
  unfold digits
  dsimp only
  rw [hrun, hn, Option.map_some, List.drop_left]

theorem twoDigits_padded {n : Nat} (h : n < 100) (rest : List Char) :
    twoDigits (padded 2 n ++ rest) = some (n, rest) := by
  have hlength : (padded 2 n).length = 2 := length_padded (by decide) h
  unfold twoDigits
  rw [trimStart_digits (areDigits_padded 2 n)]
  exact digits_append (areDigits_padded 2 n) (decimal?_padded 2 n) (Nat.le_of_eq hlength)
    (.inl hlength)

/-! ## Dates -/

theorem not_isDigit_head {c : Char} {rest : List Char} (h : c.isDigit = false) :
    ∀ c' ∈ (c :: rest).head?, c'.isDigit = false := by
  intro c' hc'
  cases hc'
  exact h

theorem year_minus (cs : List Char) :
    year ('-' :: cs) = (digits cs.length cs).map fun r => (-(r.1 : Int), r.2) :=
  rfl

theorem year_plus (cs : List Char) :
    year ('+' :: cs) = (digits cs.length cs).map fun r => ((r.1 : Int), r.2) :=
  rfl

theorem year_digits {ds : List Char} (h : AreDigits ds) (rest : List Char) :
    year (ds ++ rest) = (digits 4 (ds ++ rest)).map fun r => ((r.1 : Int), r.2) := by
  cases ds with
  | nil => exact absurd rfl h.1
  | cons d ds =>
    have hd : d.isDigit = true := h.2 d List.mem_cons_self
    unfold year
    rw [trimStart_digits h]
    split
    · rename_i heq
      cases heq
      exact absurd hd (by decide)
    · rename_i heq
      cases heq
      exact absurd hd (by decide)
    · rfl

/-- **A year is read** from four digits, or from a sign and as many digits as it has. -/
theorem year_yearText (y : Int) (rest : List Char) :
    year (yearText y ++ '-' :: rest) = some (y, '-' :: rest) := by
  have hmark : ∀ c ∈ ('-' :: rest).head?, c.isDigit = false := not_isDigit_head (by decide)
  unfold yearText
  split
  · have hlength : (padded 4 y.toNat).length = 4 :=
      length_padded (by decide) (show y.toNat < 10 ^ 4 by omega)
    have hvalue : ((y.toNat : Nat) : Int) = y := by omega
    rw [year_digits (areDigits_padded 4 _), digits_append (areDigits_padded 4 _)
      (decimal?_padded 4 _) (Nat.le_of_eq hlength) (.inl hlength), Option.map_some, hvalue]
  · have hread : digits (padded 4 y.natAbs ++ '-' :: rest).length
        (padded 4 y.natAbs ++ '-' :: rest) = some (y.natAbs, '-' :: rest) :=
      digits_append (areDigits_padded 4 _) (decimal?_padded 4 _) (by simp) (.inr hmark)
    split
    · have hvalue : -((y.natAbs : Nat) : Int) = y := by omega
      rw [List.cons_append, year_minus, hread, Option.map_some, hvalue]
    · have hvalue : ((y.natAbs : Nat) : Int) = y := by omega
      rw [List.cons_append, year_plus, hread, Option.map_some, hvalue]

theorem date_dateText {d : Date} (hmonth : d.month < 100) (hday : d.day < 100)
    (rest : List Char) : date (dateText d ++ rest) = some (d, rest) := by
  have htext : dateText d ++ rest =
      yearText d.year ++ '-' :: (padded 2 d.month ++ '-' :: (padded 2 d.day ++ rest)) := by
    simp [dateText]
  have hmark (cs : List Char) : literal '-' (trimStart ('-' :: cs)) = some cs := rfl
  unfold date
  rw [htext, year_yearText]
  simp only [Option.bind_eq_bind, Option.bind_some, hmark, twoDigits_padded hmonth,
    twoDigits_padded hday, Option.pure_def]

/-! ## Times of day -/

/-- **A fraction is read** whether it has no digits, three, six or nine. -/
theorem fraction_fractionText {n : Nat} (h : n < 1000000000) {c : Char} (hdigit : c.isDigit = false)
    (hpoint : c ≠ '.') (rest : List Char) :
    fraction (fractionText n ++ c :: rest) = some (n, c :: rest) := by
  have hread (width : Nat) (hpos : 0 < width) (hroom : width ≤ 9) (k : Nat) (hk : k < 10 ^ width) :
      fraction ('.' :: padded width k ++ c :: rest) = some (k * 10 ^ (9 - width), c :: rest) := by
    have hlength := length_padded hpos hk
    have hdigits : digits 9 (padded width k ++ c :: rest) = some (k, c :: rest) :=
      digits_append (areDigits_padded width k) (decimal?_padded width k) (by omega)
        (.inr (not_isDigit_head hdigit))
    have hcount : (padded width k ++ c :: rest).length - (c :: rest).length = width := by
      rw [List.length_append, hlength, Nat.add_sub_cancel]
    have hdrop : (c :: rest).dropWhile Char.isDigit = c :: rest := by
      simp [hdigit]
    show ((digits 9 (padded width k ++ c :: rest)).map fun r =>
      (r.1 * Nat.pow 10 (9 - ((padded width k ++ c :: rest).length - r.2.length)),
        r.2.dropWhile Char.isDigit)) = _
    rw [hdigits, Option.map_some, hcount, hdrop]
    rfl
  unfold fractionText
  split
  · rename_i hzero
    subst hzero
    unfold fraction
    split
    · rename_i heq
      cases heq
      exact absurd rfl hpoint
    · rfl
  split
  · rename_i hmillis
    rw [hread 3 (by decide) (by decide) _ (by omega)]
    congr 2
    omega
  split
  · rename_i hmicros
    rw [hread 6 (by decide) (by decide) _ (by omega)]
    congr 2
    omega
  · rw [hread 9 (by decide) (by decide) _ (by omega)]
    congr 2
    omega

theorem time_timeText {secondOfDay nanos : Nat} (hsecond : secondOfDay < 86400)
    (hnanos : nanos < 2000000000) {c : Char} (hdigit : c.isDigit = false)
    (hpoint : c ≠ '.') (rest : List Char) :
    time (timeText secondOfDay nanos ++ c :: rest) =
      some ((secondOfDay / 3600, secondOfDay / 60 % 60, secondOfDay % 60 + nanos / 1000000000,
        nanos % 1000000000), c :: rest) := by
  have htext : timeText secondOfDay nanos ++ c :: rest = padded 2 (secondOfDay / 3600) ++
      ':' :: (padded 2 (secondOfDay / 60 % 60) ++
        ':' :: (padded 2 (secondOfDay % 60 + nanos / 1000000000) ++
          (fractionText (nanos % 1000000000) ++ c :: rest))) := by
    simp [timeText]
  have hmark (cs : List Char) : literal ':' (trimStart (':' :: cs)) = some cs := rfl
  have hhour : secondOfDay / 3600 < 100 := by omega
  have hminute : secondOfDay / 60 % 60 < 100 := by omega
  have hwhole : secondOfDay % 60 + nanos / 1000000000 < 100 := by omega
  have hfraction : nanos % 1000000000 < 1000000000 := Nat.mod_lt _ (by decide)
  unfold time
  rw [htext]
  simp only [Option.bind_eq_bind, Option.bind_some, hmark, twoDigits_padded hhour,
    twoDigits_padded hminute, twoDigits_padded hwhole,
    fraction_fractionText hfraction hdigit hpoint, Option.pure_def]

/-! ## Moments -/

/-- The year of a moment is one that moments have. -/
theorem year_bounds (t : Timestamp) : -262143 ≤ t.date.year ∧ t.date.year ≤ 262142 := by
  have hfirst := t.first_le
  have hlast := t.le_last
  have hday : t.dayNumber = t.seconds / 86400 := rfl
  exact Date.yearOf_within_iff.2 (by omega)

/-- **A moment is found** at its date, its time of day and no offset. -/
theorem moment_of_parts (t : Timestamp) :
    moment t.date (t.secondOfDay.toNat / 3600) (t.secondOfDay.toNat / 60 % 60)
      (t.secondOfDay.toNat % 60 + t.nanos / 1000000000) (t.nanos % 1000000000) 0 =
      some t.carried := by
  have hnonneg := t.secondOfDay_nonneg
  have hlt := t.secondOfDay_lt
  have hseconds := t.seconds_eq
  have hnanos := t.nanos_lt
  have hday : t.date.dayNumber = t.dayNumber := Date.dayNumber_ofDayNumber t.dayNumber
  obtain ⟨hfirst, hlast⟩ := year_bounds t
  unfold moment
  rw [if_pos ⟨Date.valid_ofDayNumber _, hfirst, hlast, by omega, by omega, by omega⟩]
  -- The second that is read is a whole one, unless a leap second ends its minute.
  have hwhole : 86400 * t.date.dayNumber + ((3600 * (t.secondOfDay.toNat / 3600) +
      60 * (t.secondOfDay.toNat / 60 % 60) +
      min (t.secondOfDay.toNat % 60 + t.nanos / 1000000000) 59 : Nat) : Int) - 0 =
      t.carried.seconds := by
    rw [Timestamp.seconds_carried]
    split <;> omega
  have hrest : (if t.secondOfDay.toNat % 60 + t.nanos / 1000000000 = 60 then
      1000000000 + t.nanos % 1000000000 else t.nanos % 1000000000) = t.carried.nanos := by
    rw [Timestamp.nanos_carried]
    split <;> split <;> omega
  dsimp only
  rw [hwhole, hrest]
  exact Timestamp.ofParts?_eq_some t.carried

/-- **A timestamp is read as it was written**, leap seconds that do not end a minute aside. -/
theorem parse?_format (t : Timestamp) : parse? (format t) = some t.carried := by
  have hnonneg := t.secondOfDay_nonneg
  have hlt := t.secondOfDay_lt
  obtain ⟨-, hmonth, -, hday⟩ := Date.valid_ofDayNumber t.dayNumber
  have hshort := Date.monthLength_le (Date.ofDayNumber t.dayNumber).year
    (Date.ofDayNumber t.dayNumber).month
  have hdate (rest : List Char) : date (dateText t.date ++ rest) = some (t.date, rest) :=
    date_dateText (Nat.lt_of_le_of_lt hmonth (by decide))
      (Nat.lt_of_le_of_lt (Nat.le_trans hday hshort) (by decide)) rest
  have hsecond : t.secondOfDay.toNat < 86400 := by omega
  have htime := time_timeText hsecond t.nanos_lt (c := 'Z') (by decide) (by decide) []
  have hchars : chars t =
      dateText t.date ++ 'T' :: (timeText t.secondOfDay.toNat t.nanos ++ ['Z']) := by
    simp [chars]
  have hzone : offset (trimStart ['Z']) = some (0, []) := by decide
  unfold parse? format ofChars?
  rw [String.toList_ofList, hchars, hdate]
  simp only [Option.bind_eq_bind, Option.bind_some, separator, htime, hzone]
  exact moment_of_parts t

end Rfc3339

end NetWatch
