/-
NetWatch.Time.Date — days of the Gregorian calendar, counted from 1970-01-01.

The calendar is extended to all years, zero and negative ones included. A day
is its number (day 0 is 1970-01-01); year, month and day of the month are read
off the number and lead back to it.
-/

namespace NetWatch

/-- A day by its year, month (1 to 12) and day of the month (from 1). -/
structure Date where
  year : Int
  month : Nat
  day : Nat
  deriving DecidableEq, Repr

namespace Date

/-- Every fourth year, but of the full centuries only every fourth. -/
def isLeap (year : Int) : Bool :=
  year % 4 == 0 && (year % 100 != 0 || year % 400 == 0)

/-- The number of the first day of a year. -/
def yearStart (year : Int) : Int :=
  365 * (year - 1970) + ((year - 1) / 4 - (year - 1) / 100 + (year - 1) / 400) - 477

/-- The year of a day number: the mean year length gives it to within one year. -/
def yearOf (n : Int) : Int :=
  let guess := 1970 + 400 * n / 146097
  if n < yearStart guess then guess - 1
  else if yearStart (guess + 1) ≤ n then guess + 1
  else guess

def monthLengths (leap : Bool) : List Nat :=
  [31, if leap then 29 else 28, 31, 30, 31, 30, 31, 31, 30, 31, 30, 31]

/-- The length of a month; zero for a month that does not exist. -/
def monthLength (year : Int) (month : Nat) : Nat :=
  if month = 0 then 0 else (monthLengths (isLeap year)).getD (month - 1) 0

/-- How many days some months have together. -/
def totalDays : List Nat → Nat
  | [] => 0
  | length :: rest => length + totalDays rest

/-- Counts off whole months: the month and the day of the month that a day of the year falls on. -/
def monthAndDay (month : Nat) : List Nat → Nat → Nat × Nat
  | [], n => (month, n + 1)
  | length :: rest, n =>
    if n < length then (month, n + 1) else monthAndDay (month + 1) rest (n - length)

def ofDayNumber (n : Int) : Date :=
  let year := yearOf n
  let place := monthAndDay 1 (monthLengths (isLeap year)) (n - yearStart year).toNat
  ⟨year, place.1, place.2⟩

/-- Whether the month and the day exist in the year. -/
def Valid (d : Date) : Prop :=
  1 ≤ d.month ∧ d.month ≤ 12 ∧ 1 ≤ d.day ∧ d.day ≤ monthLength d.year d.month

instance (d : Date) : Decidable d.Valid :=
  inferInstanceAs (Decidable (_ ∧ _ ∧ _ ∧ _))

def dayNumber (d : Date) : Int :=
  yearStart d.year + totalDays ((monthLengths (isLeap d.year)).take (d.month - 1))
    + (d.day - 1 : Nat)

/-- The day of the week, counted from Monday as 0. -/
def weekday (n : Int) : Int :=
  (n + 3) % 7

/-! ## Laws -/

/-- A year begins when the one before it is over. -/
theorem yearStart_succ (year : Int) :
    yearStart (year + 1) = yearStart year + totalDays (monthLengths (isLeap year)) := by
  by_cases h : isLeap year = true
  · have hsum : totalDays (monthLengths (isLeap year)) = 366 := by
      simp [h, monthLengths, totalDays]
    simp only [isLeap, Bool.and_eq_true, Bool.or_eq_true, beq_iff_eq, bne_iff_ne] at h
    rw [hsum, yearStart, yearStart]
    omega
  · have hf : isLeap year = false := by simpa using h
    have hsum : totalDays (monthLengths (isLeap year)) = 365 := by
      simp [hf, monthLengths, totalDays]
    simp only [isLeap, Bool.and_eq_true, Bool.or_eq_true, beq_iff_eq, bne_iff_ne] at h
    rw [hsum, yearStart, yearStart]
    omega

/-- The first day of a year lies within three days of where the mean year length puts it. -/
theorem yearStart_near_mean (year : Int) :
    146097 * (year - 1970) - 1200 ≤ 400 * yearStart year ∧
      400 * yearStart year ≤ 146097 * (year - 1970) + 1200 := by
  simp only [yearStart]
  omega

/-- The year of a day is the one that has begun and is not over yet. -/
theorem yearOf_spans (n : Int) : yearStart (yearOf n) ≤ n ∧ n < yearStart (yearOf n + 1) := by
  simp only [yearOf]
  generalize hg : 1970 + 400 * n / 146097 = guess
  have before := yearStart_near_mean (guess - 1)
  have here := yearStart_near_mean guess
  have next := yearStart_near_mean (guess + 1)
  have afterNext := yearStart_near_mean (guess + 1 + 1)
  have hguess : guess - 1 + 1 = guess := by omega
  by_cases hlow : n < yearStart guess
  · simp only [hlow, ↓reduceIte, hguess, and_true]
    omega
  · by_cases hhigh : yearStart (guess + 1) ≤ n
    · simp only [hlow, hhigh, ↓reduceIte, true_and]
      omega
    · simp only [hlow, hhigh, ↓reduceIte]
      omega

example : ofDayNumber 0 = ⟨1970, 1, 1⟩ ∧ ofDayNumber (-1) = ⟨1969, 12, 31⟩ ∧
    ofDayNumber 11016 = ⟨2000, 2, 29⟩ ∧ ofDayNumber 20149 = ⟨2025, 3, 2⟩ := by decide

example : dayNumber ⟨2025, 3, 2⟩ = 20149 ∧ weekday 20149 = 6 := by decide

end Date

end NetWatch
