/-
NetWatch.Proofs.Maintenance.Recurrence — when windows that recur are in force (`in_window`).

What a window takes from its two ends is their times of day, and from its start
the weekday or the day of the month. Here this is held against the calendar: a
window that is shorter than a day recurs every 24 hours, or every seven days,
shifted as a whole (`inWindow_iff_translated`).

What carries both statements is the range of times of day. Where two moments
are less than a day apart, a third lies in the range exactly if it lies between
them up to whole days (`timeOfDayWithin_iff`), whether or not midnight is in
between.

A window need not be in force between its own ends: the weekday and the day of
the month are those of the start alone, so one that goes past midnight ends
there (`Window.inForce_between`, `Window.not_inForce_between`).
-/
import NetWatch.Proofs.Time.Calendar
import NetWatch.Proofs.Store.WindowValidity

namespace NetWatch

variable {now start stop : Timestamp}

/-! ## Times of day -/

/-- **A range of times of day is a span of less than a day, up to whole days.** -/
theorem timeOfDayWithin_iff (hle : start.seconds ≤ stop.seconds)
    (hshort : stop.seconds - start.seconds < 86400) :
    timeOfDayWithin now start stop = true ↔
      ∃ k : Int, start.seconds + 86400 * k ≤ now.seconds ∧
        now.seconds ≤ stop.seconds + 86400 * k := by
  have hnow := now.seconds_eq
  have hstart := start.seconds_eq
  have hstop := stop.seconds_eq
  have hnow₀ := now.secondOfDay_nonneg
  have hnow₁ := now.secondOfDay_lt
  have hstart₀ := start.secondOfDay_nonneg
  have hstart₁ := start.secondOfDay_lt
  have hstop₀ := stop.secondOfDay_nonneg
  have hstop₁ := stop.secondOfDay_lt
  unfold timeOfDayWithin
  dsimp only
  split
  · rename_i hplain
    rw [Bool.and_eq_true, decide_eq_true_eq, decide_eq_true_eq]
    constructor
    · rintro ⟨hafter, hbefore⟩
      exact ⟨now.dayNumber - start.dayNumber, by omega, by omega⟩
    · rintro ⟨k, hafter, hbefore⟩
      omega
  · rename_i hwraps
    rw [Bool.or_eq_true, decide_eq_true_eq, decide_eq_true_eq]
    constructor
    · rintro (hafter | hbefore)
      · exact ⟨now.dayNumber - start.dayNumber, by omega, by omega⟩
      · exact ⟨now.dayNumber - stop.dayNumber, by omega, by omega⟩
    · rintro ⟨k, hafter, hbefore⟩
      omega

/-! ## Weeks -/

/-- Days have one weekday if they are whole weeks apart. -/
theorem Date.weekday_eq_iff {n n' : Int} :
    weekday n = weekday n' ↔ ∃ k : Int, n = n' + 7 * k := by
  unfold weekday
  constructor
  · intro hsame
    exact ⟨(n + 3) / 7 - (n' + 3) / 7, by omega⟩
  · rintro ⟨k, rfl⟩
    omega

/-- On one day a range of times of day is a span of that day, and so is each of its weeks. -/
theorem weekly_holds_iff (hle : start.seconds ≤ stop.seconds) (hday : start.date = stop.date) :
    Recurrence.weekly.holds now start stop = true ↔
      ∃ k : Int, start.seconds + 604800 * k ≤ now.seconds ∧
        now.seconds ≤ stop.seconds + 604800 * k := by
  have hnow := now.seconds_eq
  have hstart := start.seconds_eq
  have hstop := stop.seconds_eq
  have hnow₀ := now.secondOfDay_nonneg
  have hnow₁ := now.secondOfDay_lt
  have hstart₀ := start.secondOfDay_nonneg
  have hstop₁ := stop.secondOfDay_lt
  have hsame : start.dayNumber = stop.dayNumber := Timestamp.date_eq_iff.mp hday
  have hshort : stop.seconds - start.seconds < 86400 := by omega
  show (Date.weekday now.dayNumber == Date.weekday start.dayNumber &&
    timeOfDayWithin now start stop) = true ↔ _
  rw [Bool.and_eq_true, beq_iff_eq, Date.weekday_eq_iff, timeOfDayWithin_iff hle hshort]
  constructor
  · rintro ⟨⟨week, hweek⟩, k, hafter, hbefore⟩
    -- `k` counts days; the weekday makes them whole weeks
    exact ⟨week, by omega, by omega⟩
  · rintro ⟨k, hafter, hbefore⟩
    exact ⟨⟨k, by omega⟩, 7 * k, by omega, by omega⟩

/-! ## Windows that recur -/

/-- **A window that recurs is in force at its translates.** One of less than a day, in whole
seconds, recurs daily at every number of days from its first time, past midnight as well; one
within a day recurs weekly at every number of weeks. -/
theorem inWindow_iff_translated (hle : start.seconds ≤ stop.seconds)
    (hshort : stop.seconds - start.seconds < 86400) :
    (inWindow now start stop "daily" = true ↔
      ∃ k : Int, start.seconds + 86400 * k ≤ now.seconds ∧
        now.seconds ≤ stop.seconds + 86400 * k) ∧
    (start.date = stop.date →
      (inWindow now start stop "weekly" = true ↔
        ∃ k : Int, start.seconds + 604800 * k ≤ now.seconds ∧
          now.seconds ≤ stop.seconds + 604800 * k)) := by
  have hdaily : inWindow now start stop Recurrence.daily.name = timeOfDayWithin now start stop := by
    rw [inWindow, Recurrence.named?_name]
    rfl
  have hweekly : inWindow now start stop Recurrence.weekly.name =
      Recurrence.weekly.holds now start stop := by
    rw [inWindow, Recurrence.named?_name]
  refine ⟨?_, fun hday => ?_⟩
  · rw [← timeOfDayWithin_iff hle hshort, ← hdaily, Recurrence.name]
  · rw [← weekly_holds_iff hle hday, ← hweekly, Recurrence.name]

/-- The night to the last day of 1969, from ten to two, comes daily at the first midnight of 1965;
its part before midnight, weekly, does not. -/
theorem inWindow_iff_translated_before_epoch :
    let night : Timestamp := .ofMillis (-93600000)
    let morning : Timestamp := .ofMillis (-79200000)
    let evening : Timestamp := .ofMillis (-86401000)
    let first : Timestamp := .ofMillis (-157766400000)
    inWindow first night morning "daily" = true ∧
      inWindow first night evening "weekly" = false := by
  intro night morning evening first
  have hdaily := @inWindow_iff_translated first night morning (by decide) (by decide)
  have hweekly := (@inWindow_iff_translated first night evening (by decide) (by decide)).2
    (by decide)
  refine ⟨hdaily.1.mpr ⟨-1825, by decide, by decide⟩, ?_⟩
  rw [Bool.eq_false_iff, Ne, hweekly]
  rintro ⟨k, hafter, hbefore⟩
  have hnight : night.seconds = -93600 := rfl
  have hevening : evening.seconds = -86401 := rfl
  have hfirst : first.seconds = -157766400 := rfl
  omega

/-! ## A window between its own ends -/

/-- **How a recurrence takes the span that it recurs from**: once and daily it holds throughout,
weekly and monthly on the first date only. -/
theorem Recurrence.holds_between (r : Recurrence) (hstart : start ≤ now) (hend : now ≤ stop)
    (hshort : stop.seconds - start.seconds < 86400) :
    r.holds now start stop = true ↔ (r = .weekly ∨ r = .monthly → now.date = start.date) := by
  have hafter := Timestamp.seconds_le_of_le hstart
  have hbefore := Timestamp.seconds_le_of_le hend
  have hwithin : timeOfDayWithin now start stop = true :=
    (timeOfDayWithin_iff (Int.le_trans hafter hbefore) hshort).mpr ⟨0, by omega, by omega⟩
  have hday : now.dayNumber = start.dayNumber ∨ now.dayNumber = start.dayNumber + 1 := by
    unfold Timestamp.dayNumber
    omega
  cases r with
  | once => simp [holds, hstart, hend]
  | daily => simp [holds, hwithin]
  | weekly =>
    have hweekday : Date.weekday now.dayNumber = Date.weekday start.dayNumber ↔
        now.dayNumber = start.dayNumber := by
      rw [Date.weekday_eq_iff]
      refine ⟨?_, fun h => ⟨0, by omega⟩⟩
      rintro ⟨k, hk⟩
      omega
    simp [holds, hwithin, hweekday, Timestamp.date_eq_iff]
  | monthly =>
    have hdayOfMonth : now.date.day = start.date.day ↔ now.date = start.date := by
      refine ⟨fun h => ?_, congrArg Date.day⟩
      rcases hday with hsame | hnext
      · exact Timestamp.date_eq_iff.mpr hsame
      · rw [Timestamp.date, hnext] at h
        exact absurd h (Date.day_succ_ne start.dayNumber)
    simp [holds, hwithin, hdayOfMonth]

namespace Window

variable {w : Window}

/-- **A valid window between its own ends.** One that is to happen once is in force there, however
long it is. One of less than a day, in whole seconds, is in force there if it recurs daily, past
midnight as well; if it recurs weekly or monthly, then exactly while it is the date of its start. -/
theorem inForce_between (hvalid : w.validate = .ok ()) (hstart : w.startTime ≤ now)
    (hend : now ≤ w.endTime) :
    ∃ r, Recurrence.named? w.recurrence = some r ∧
      (r = .once → w.inForce now = true) ∧
      (w.endTime.seconds - w.startTime.seconds < 86400 →
        (w.inForce now = true ↔
          (r = .weekly ∨ r = .monthly → now.date = w.startTime.date))) := by
  obtain ⟨-, ⟨r, hr⟩, -, -⟩ := validate_eq_ok_iff.mp hvalid
  have hforce : w.inForce now = r.holds now w.startTime w.endTime := by
    rw [inForce, inWindow, hr]
  rw [hforce]
  refine ⟨r, hr, ?_, r.holds_between hstart hend⟩
  rintro rfl
  simp [Recurrence.holds, hstart, hend]

/-- From ten in the evening of 29 February 2024 to two in the morning. -/
def leapNight (r : Recurrence) : Window :=
  create "w1" "leap night" (.ofMillis 1709244000000) (.ofMillis 1709258400000) r ["d1"] .epoch

/-- The month is over at midnight, and with it what recurs on its last day. -/
theorem inForce_between_of_leapNight :
    let lastSecond : Timestamp := .ofMillis 1709251199000
    let oneOClock : Timestamp := .ofMillis 1709254800000
    (leapNight .once).inForce oneOClock = true ∧ (leapNight .daily).inForce oneOClock = true ∧
      (leapNight .monthly).inForce lastSecond = true ∧
      (leapNight .monthly).inForce oneOClock = false := by
  intro lastSecond oneOClock
  obtain ⟨_, honce, hthroughout, -⟩ :=
    @inForce_between oneOClock (leapNight .once) (by decide) (by decide) (by decide)
  obtain ⟨_, hdaily, -, hdays⟩ :=
    @inForce_between oneOClock (leapNight .daily) (by decide) (by decide) (by decide)
  obtain ⟨_, hmonthly, -, hlast⟩ :=
    @inForce_between lastSecond (leapNight .monthly) (by decide) (by decide) (by decide)
  obtain ⟨_, hmonthly', -, hfirst⟩ :=
    @inForce_between oneOClock (leapNight .monthly) (by decide) (by decide) (by decide)
  cases Option.some.inj ((Recurrence.named?_name .once).symm.trans honce)
  cases Option.some.inj ((Recurrence.named?_name .daily).symm.trans hdaily)
  cases Option.some.inj ((Recurrence.named?_name .monthly).symm.trans hmonthly)
  cases Option.some.inj ((Recurrence.named?_name .monthly).symm.trans hmonthly')
  refine ⟨hthroughout rfl, (hdays (by decide)).mpr (by simp), ?_, ?_⟩
  · exact (hlast (by decide)).mpr fun _ => by decide
  · rw [Bool.eq_false_iff, Ne, hfirst (by decide)]
    exact fun h => absurd (h (.inr rfl)) (by decide)

/-- From half a second past ten to a fifth of a second past ten on the next day, daily. -/
def roundTheClock : Window :=
  create "w1" "round the clock" (.ofMillis 1709200800500) (.ofMillis 1709287200200) .daily
    ["d1"] .epoch

/-- **Not every valid window of less than 24 hours is in force between its ends**: not past midnight
if it recurs weekly or monthly, and not two hours after its start if its ends, almost 24 hours
apart, lie in one second of the day. -/
theorem not_inForce_between :
    let oneOClock : Timestamp := .ofMillis 1709254800000
    let noon : Timestamp := .ofMillis 1709208000000
    (∀ r ∈ [Recurrence.weekly, .monthly],
      (leapNight r).validate = .ok () ∧
        (leapNight r).endTime.seconds - (leapNight r).startTime.seconds = 4 * 3600 ∧
        (leapNight r).startTime ≤ oneOClock ∧ oneOClock ≤ (leapNight r).endTime ∧
        (leapNight r).inForce oneOClock = false) ∧
      roundTheClock.validate = .ok () ∧
      1000000000 * roundTheClock.endTime.seconds + roundTheClock.endTime.nanos -
          (1000000000 * roundTheClock.startTime.seconds + roundTheClock.startTime.nanos) <
        86400 * 1000000000 ∧
      roundTheClock.startTime ≤ noon ∧ noon ≤ roundTheClock.endTime ∧
      roundTheClock.inForce noon = false := by
  decide

end Window

end NetWatch
