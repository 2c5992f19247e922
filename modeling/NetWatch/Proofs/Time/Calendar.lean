/-
NetWatch.Proofs.Time.Calendar — days by their numbers and by their dates.

A date leads back to the number of its day (`Date.dayNumber_ofDayNumber`), so no
two days have one date. From one day to the next the day of the month changes,
at the end of a month and of a year as well (`Date.day_succ_ne`): it goes up by
one or starts again at one, and no month is as short as a day. Every day has a
date whose month is one of twelve and whose day lies in that month
(`Date.valid_ofDayNumber`).

The months of a year are counted off along the list of their lengths; what is
said of the whole calendar rests on one induction along that list each.
-/
import NetWatch.Time.Timestamp

namespace NetWatch

namespace Date

/-! ## Counting off months -/

theorem le_monthAndDay (month : Nat) (lengths : List Nat) (n : Nat) :
    month ≤ (monthAndDay month lengths n).1 := by
  induction lengths generalizing month n with
  | nil => exact Nat.le_refl month
  | cons length rest ih =>
    unfold monthAndDay
    split
    · exact Nat.le_refl month
    · exact Nat.le_of_succ_le (ih (month + 1) (n - length))

/-- The months before a day and the days before it in its month are all that is before it. -/
theorem totalDays_monthAndDay (month : Nat) (lengths : List Nat) (n : Nat) :
    totalDays (lengths.take ((monthAndDay month lengths n).1 - month)) +
      ((monthAndDay month lengths n).2 - 1) = n := by
  induction lengths generalizing month n with
  | nil => simp [monthAndDay, totalDays]
  | cons length rest ih =>
    unfold monthAndDay
    split
    · simp [totalDays]
    · rename_i hlater
      have hmonth := le_monthAndDay (month + 1) rest (n - length)
      have hrest := ih (month + 1) (n - length)
      have hsucc : (monthAndDay (month + 1) rest (n - length)).1 - month =
          (monthAndDay (month + 1) rest (n - length)).1 - (month + 1) + 1 := by
        omega
      rw [hsucc, List.take_succ_cons, totalDays]
      omega

/-- A day that is not beyond the last month is one of the days of its month. -/
theorem monthAndDay_within (month : Nat) {lengths : List Nat} {n : Nat}
    (h : n < totalDays lengths) :
    (monthAndDay month lengths n).1 < month + lengths.length ∧
      1 ≤ (monthAndDay month lengths n).2 ∧
      (monthAndDay month lengths n).2 ≤
        lengths.getD ((monthAndDay month lengths n).1 - month) 0 := by
  induction lengths generalizing month n with
  | nil => exact absurd h (Nat.not_lt_zero n)
  | cons length rest ih =>
    rw [totalDays] at h
    unfold monthAndDay
    split
    · rename_i hhere
      simp only [List.length_cons, Nat.sub_self, List.getD_cons_zero]
      omega
    · have hlater := le_monthAndDay (month + 1) rest (n - length)
      obtain ⟨hmonth, hfirst, hlast⟩ := ih (month + 1) (n := n - length) (by omega)
      have hsucc : (monthAndDay (month + 1) rest (n - length)).1 - month =
          (monthAndDay (month + 1) rest (n - length)).1 - (month + 1) + 1 := by
        omega
      rw [hsucc, List.getD_cons_succ, List.length_cons]
      exact ⟨by omega, hfirst, hlast⟩

/-- The day after a day has another number in its month, if no month is shorter than two days. -/
theorem monthAndDay_succ_ne (month : Nat) {lengths : List Nat} (h : ∀ l ∈ lengths, 2 ≤ l)
    (n : Nat) : (monthAndDay month lengths (n + 1)).2 ≠ (monthAndDay month lengths n).2 := by
  induction lengths generalizing month n with
  | nil => simp [monthAndDay]
  | cons length rest ih =>
    have hrest : ∀ l ∈ rest, 2 ≤ l := fun l hl => h l (List.mem_cons_of_mem length hl)
    unfold monthAndDay
    by_cases hnext : n + 1 < length
    · rw [if_pos hnext, if_pos (by omega)]
      simp
    · rw [if_neg hnext]
      by_cases hlast : n < length
      · -- the first day of the next month
        have hlength : 2 ≤ length := h length List.mem_cons_self
        have hzero : n + 1 - length = 0 := by omega
        rw [if_pos hlast, hzero]
        cases rest with
        | nil =>
          show 0 + 1 ≠ n + 1
          omega
        | cons length' rest =>
          have hpos : 0 < length' := by
            have := hrest length' List.mem_cons_self
            omega
          rw [monthAndDay, if_pos hpos]
          show 0 + 1 ≠ n + 1
          omega
      · have hshift : n + 1 - length = n - length + 1 := by omega
        rw [if_neg hlast, hshift]
        exact ih (month + 1) hrest (n - length)

theorem two_le_of_mem_monthLengths {leap : Bool} {l : Nat} (h : l ∈ monthLengths leap) :
    2 ≤ l := by
  have hall : ∀ leap : Bool, ∀ l ∈ monthLengths leap, 2 ≤ l := by decide
  exact hall leap l h

theorem monthLength_le (year : Int) (month : Nat) : monthLength year month ≤ 31 := by
  have hall : ∀ leap : Bool, ∀ place, place < 12 → (monthLengths leap).getD place 0 ≤ 31 := by
    decide
  unfold monthLength
  split
  · decide
  · rcases Nat.lt_or_ge (month - 1) 12 with hlt | hge
    · exact hall _ _ hlt
    · rw [List.getD_eq_getElem?_getD, List.getElem?_eq_none hge]
      decide

/-! ## Years -/

theorem yearStart_lt {year year' : Int} (h : year < year') : yearStart year < yearStart year' := by
  simp only [yearStart]
  omega

theorem yearStart_le {year year' : Int} (h : year ≤ year') : yearStart year ≤ yearStart year' := by
  simp only [yearStart]
  omega

/-- **The year of a day is the last one that has begun by then.** -/
theorem le_yearOf_iff {n year : Int} : year ≤ yearOf n ↔ yearStart year ≤ n := by
  obtain ⟨hstart, hend⟩ := yearOf_spans n
  refine ⟨fun h => Int.le_trans (yearStart_le h) hstart, fun h => Int.not_lt.1 fun hlt => ?_⟩
  have hover : yearStart (yearOf n + 1) ≤ yearStart year := yearStart_le hlt
  omega

/-- A day is of the year that has begun and is not over yet, and of no other. -/
theorem yearOf_eq {n year : Int} (hbegun : yearStart year ≤ n) (hgoes : n < yearStart (year + 1)) :
    yearOf n = year := by
  have hle : year ≤ yearOf n := le_yearOf_iff.2 hbegun
  have hlt : ¬ year + 1 ≤ yearOf n := fun h => absurd (le_yearOf_iff.1 h) (Int.not_le.2 hgoes)
  omega

/-- The days of the years −262143 to 262142. -/
theorem yearOf_within_iff {n : Int} :
    (-262143 ≤ yearOf n ∧ yearOf n ≤ 262142) ↔ -96465292 ≤ n ∧ n < 95026237 := by
  have hbegin : yearStart (-262143) = -96465292 := by decide
  have hover : yearStart 262143 = 95026237 := by decide
  rw [← hbegin, ← hover, ← le_yearOf_iff, ← Int.not_le, ← le_yearOf_iff]
  omega

/-- The last day of a year is not the first of a month. -/
theorem monthAndDay_last_ne (leap : Bool) :
    (monthAndDay 1 (monthLengths leap) (totalDays (monthLengths leap) - 1)).2 ≠ 1 := by
  cases leap <;> decide

theorem monthAndDay_first (leap : Bool) : (monthAndDay 1 (monthLengths leap) 0).2 = 1 := by
  cases leap <;> decide

/-! ## Dates -/

/-- **A date leads back to its day.** -/
theorem dayNumber_ofDayNumber (n : Int) : (ofDayNumber n).dayNumber = n := by
  have hstart := (yearOf_spans n).1
  have hplace := totalDays_monthAndDay 1 (monthLengths (isLeap (yearOf n)))
    (n - yearStart (yearOf n)).toNat
  unfold dayNumber ofDayNumber
  dsimp only
  omega

/-- **The date of a day exists.** -/
theorem valid_ofDayNumber (n : Int) : (ofDayNumber n).Valid := by
  obtain ⟨hstart, hend⟩ := yearOf_spans n
  have hlength := yearStart_succ (yearOf n)
  have hinside : (n - yearStart (yearOf n)).toNat <
      totalDays (monthLengths (isLeap (yearOf n))) := by
    omega
  have hfirstMonth : 1 ≤ (ofDayNumber n).month := le_monthAndDay 1 _ _
  obtain ⟨hmonth, hfirst, hlast⟩ := monthAndDay_within 1 hinside
  have hmonths : (monthLengths (isLeap (yearOf n))).length = 12 := rfl
  have hlastMonth : (ofDayNumber n).month ≤ 12 := by
    unfold ofDayNumber
    dsimp only
    omega
  refine ⟨hfirstMonth, hlastMonth, hfirst, ?_⟩
  unfold monthLength
  rw [if_neg (Nat.pos_iff_ne_zero.1 hfirstMonth)]
  exact hlast

/-- No two days have one date. -/
theorem ofDayNumber_inj {n n' : Int} : ofDayNumber n = ofDayNumber n' ↔ n = n' := by
  refine ⟨fun h => ?_, congrArg ofDayNumber⟩
  rw [← dayNumber_ofDayNumber n, h, dayNumber_ofDayNumber]

/-- **From one day to the next the day of the month changes.** -/
theorem day_succ_ne (n : Int) : (ofDayNumber (n + 1)).day ≠ (ofDayNumber n).day := by
  obtain ⟨hstart, hend⟩ := yearOf_spans n
  unfold ofDayNumber
  dsimp only
  by_cases hsame : n + 1 < yearStart (yearOf n + 1)
  · have hyear : yearOf (n + 1) = yearOf n := yearOf_eq (by omega) hsame
    have hindex : (n + 1 - yearStart (yearOf n)).toNat = (n - yearStart (yearOf n)).toNat + 1 := by
      omega
    rw [hyear, hindex]
    exact monthAndDay_succ_ne 1 (fun _ => two_le_of_mem_monthLengths) _
  · -- New Year's Eve and the day after it
    have hnewYear : n + 1 = yearStart (yearOf n + 1) := by omega
    have hyear : yearOf (n + 1) = yearOf n + 1 := by
      refine yearOf_eq (by omega) ?_
      rw [hnewYear]
      exact yearStart_lt (by omega)
    have hfirst : (n + 1 - yearStart (yearOf n + 1)).toNat = 0 := by omega
    have hlast : (n - yearStart (yearOf n)).toNat =
        totalDays (monthLengths (isLeap (yearOf n))) - 1 := by
      have hlength := yearStart_succ (yearOf n)
      omega
    rw [hyear, hfirst, hlast, monthAndDay_first]
    exact (monthAndDay_last_ne _).symm

example : (ofDayNumber 19782).day = 29 ∧ (ofDayNumber 19783).day = 1 := by decide

end Date

namespace Timestamp

variable {t u : Timestamp}

/-- A moment is so many days after 1970 began, and so many seconds into its day. -/
theorem seconds_eq (t : Timestamp) : t.seconds = 86400 * t.dayNumber + t.secondOfDay :=
  (Int.mul_ediv_add_emod t.seconds 86400).symm

theorem secondOfDay_nonneg (t : Timestamp) : 0 ≤ t.secondOfDay :=
  Int.emod_nonneg _ (by decide)

theorem secondOfDay_lt (t : Timestamp) : t.secondOfDay < 86400 :=
  Int.emod_lt_of_pos _ (by decide)

/-- Moments have one date if they lie in one day. -/
theorem date_eq_iff : t.date = u.date ↔ t.dayNumber = u.dayNumber :=
  Date.ofDayNumber_inj

theorem seconds_le_of_le (h : t ≤ u) : t.seconds ≤ u.seconds := by
  have hparts : t.seconds < u.seconds ∨ (t.seconds = u.seconds ∧ t.nanos ≤ u.nanos) := h
  omega

end Timestamp

end NetWatch
