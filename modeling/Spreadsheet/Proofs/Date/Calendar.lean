import Mathlib
import Spreadsheet.Date.Calendar

/-! Day numbers of the Gregorian calendar: months follow one another without gaps, so that day
numbers grow with dates, and every day number is that of a date.
-/

namespace Spreadsheet.Calendar

-- Months in a row

/-- The place of a month among all months, counted from January of year 0. -/
def monthIndex (year month : Int) : Int :=
  12 * year + month - 1

/-- The number of the first day of a month. -/
def firstDay (index : Int) : Int :=
  dayNumber ⟨index / 12, index % 12 + 1, 1⟩

/-- The length of a month. -/
def monthLength (index : Int) : Int :=
  daysInMonth (index / 12) (index % 12 + 1)

theorem exists_monthIndex (index : Int)
    : ∃ year month, 1 ≤ month ∧ month ≤ 12 ∧ monthIndex year month = index :=
  ⟨index / 12, index % 12 + 1, by omega, by omega, by rw [monthIndex]; omega⟩

theorem monthIndex_succ (year month : Int)
    : monthIndex year (month + 1) = monthIndex year month + 1 := by
  rw [monthIndex, monthIndex]
  omega

theorem monthIndex_december (year : Int) : monthIndex (year + 1) 1 = monthIndex year 12 + 1 := by
  rw [monthIndex, monthIndex]
  omega

section

variable {year month : Int} (low : 1 ≤ month) (high : month ≤ 12)

include low high

theorem monthIndex_div : monthIndex year month / 12 = year := by
  rw [monthIndex]
  omega

theorem monthIndex_mod : monthIndex year month % 12 + 1 = month := by
  rw [monthIndex]
  omega

theorem firstDay_monthIndex : firstDay (monthIndex year month) = dayNumber ⟨year, month, 1⟩ := by
  rw [firstDay, monthIndex_div low high, monthIndex_mod low high]

theorem monthLength_monthIndex
    : monthLength (monthIndex year month) = daysInMonth year month := by
  rw [monthLength, monthIndex_div low high, monthIndex_mod low high]

end

theorem dayNumber_eq_firstDay {d : CalendarDate} (low : 1 ≤ d.month) (high : d.month ≤ 12)
    : dayNumber d = firstDay (monthIndex d.year d.month) + d.day - 1 := by
  rw [firstDay_monthIndex low high]
  simp only [dayNumber]
  omega

theorem daysInMonth_le (year month : Int) : daysInMonth year month ≤ 31 := by
  unfold daysInMonth
  split
  · split <;> decide
  · split <;> decide

theorem le_daysInMonth (year month : Int) : 28 ≤ daysInMonth year month := by
  unfold daysInMonth
  split
  · split <;> decide
  · split <;> decide

/-- The days before a year that begins in March. -/
def yearStart (year : Int) : Int :=
  365 * year + year / 4 - year / 100 + year / 400

theorem yearStart_sub_one (year : Int)
    : yearStart (year - 1) = yearStart year - if isLeap year then 366 else 365 := by
  unfold yearStart isLeap
  split
  · next leap =>
    simp only [Bool.and_eq_true, Bool.or_eq_true, beq_iff_eq, bne_iff_ne] at leap
    omega
  · next common =>
    simp only [Bool.and_eq_true, Bool.or_eq_true, beq_iff_eq, bne_iff_ne] at common
    omega

theorem dayNumber_of_le_two {year month day : Int} (low : 1 ≤ month) (early : month ≤ 2)
    : dayNumber ⟨year, month, day⟩ = yearStart (year - 1) + 275 + 31 * month + day - 1 := by
  simp only [dayNumber, yearStart, early, if_true]
  omega

theorem dayNumber_of_three_le {year month day : Int} (late : 3 ≤ month) (high : month ≤ 12)
    : dayNumber ⟨year, month, day⟩ = yearStart year + (153 * (month - 3) + 2) / 5 + day - 1 := by
  have notEarly : ¬month ≤ 2 := by omega
  have fromMarch : (month + 9) % 12 = month - 3 := by omega
  simp only [dayNumber, yearStart, notEarly, fromMarch, if_false]

/-- From March on month lengths follow one pattern. -/
theorem daysInMonth_of_three_le {year month : Int} (late : 3 ≤ month) (high : month ≤ 12)
    : daysInMonth year month = (153 * (month - 2) + 2) / 5 - (153 * (month - 3) + 2) / 5 := by
  interval_cases month <;> rfl

/-- February has what is left of a year. -/
theorem daysInMonth_february (year : Int)
    : daysInMonth year 2 = yearStart year - yearStart (year - 1) - 337 := by
  rw [yearStart_sub_one, show daysInMonth year 2 = if isLeap year then 29 else 28 from rfl]
  split <;> omega

/-- A month begins when the month before it is over, by cases on the month. -/
theorem firstDay_succ (index : Int)
    : firstDay (index + 1) = firstDay index + monthLength index := by
  obtain ⟨year, month, low, high, rfl⟩ := exists_monthIndex index
  rw [firstDay_monthIndex low high, monthLength_monthIndex low high]
  obtain rfl | rfl | middle | rfl
      : month = 1 ∨ month = 2 ∨ 3 ≤ month ∧ month < 12 ∨ month = 12 := by omega
  · rw [← monthIndex_succ, firstDay_monthIndex (by decide) (by decide),
      dayNumber_of_le_two (by decide) (by decide), dayNumber_of_le_two (by decide) (by decide),
      show daysInMonth year 1 = 31 from rfl]
    omega
  · rw [← monthIndex_succ, firstDay_monthIndex (by decide) (by decide),
      dayNumber_of_three_le (by decide) (by decide), dayNumber_of_le_two (by decide) (by decide),
      daysInMonth_february]
    omega
  · rw [← monthIndex_succ, firstDay_monthIndex (by omega) (by omega),
      dayNumber_of_three_le (by omega) (by omega), dayNumber_of_three_le (by omega) (by omega),
      daysInMonth_of_three_le (by omega) (by omega)]
    omega
  · rw [← monthIndex_december, firstDay_monthIndex (by decide) (by decide),
      dayNumber_of_le_two (by decide) (by decide), dayNumber_of_three_le (by decide) (by decide),
      Int.add_sub_cancel year 1, show daysInMonth year 12 = 31 from rfl]
    omega

theorem firstDay_lt_succ (index : Int) : firstDay index < firstDay (index + 1) := by
  have long := le_daysInMonth (index / 12) (index % 12 + 1)
  rw [firstDay_succ, monthLength]
  omega

/-- Later months begin later, month by month. -/
theorem firstDay_mono {index later : Int} (h : index ≤ later)
    : firstDay index ≤ firstDay later := by
  induction later, h using Int.leInduction with
  | base => exact Int.le_refl _
  | succ later _ ih => exact Int.le_trans ih (Int.le_of_lt (firstDay_lt_succ later))

/-- The day is one of its month. -/
structure InMonth (d : CalendarDate) : Prop where
  january : 1 ≤ d.month
  december : d.month ≤ 12
  first : 1 ≤ d.day
  last : d.day ≤ daysInMonth d.year d.month

theorem InMonth.intro {year month day : Int} (january : 1 ≤ month) (december : month ≤ 12)
    (first : 1 ≤ day) (last : day ≤ daysInMonth year month)
    : InMonth ⟨year, month, day⟩ :=
  ⟨january, december, first, last⟩

theorem inMonth_of_isDate {d : CalendarDate} (h : isDate d) : InMonth d := by
  simp only [isDate, Bool.and_eq_true, decide_eq_true_eq] at h
  obtain ⟨⟨_, january, december⟩, first, last⟩ := h
  exact ⟨january, december, first, last⟩

/-- A day that does not lie before a month begins lies in that month or in a later one. -/
theorem InMonth.firstDay_le_iff {d : CalendarDate} (h : InMonth d) {index : Int}
    : firstDay index ≤ dayNumber d ↔ index ≤ monthIndex d.year d.month := by
  have number := dayNumber_eq_firstDay h.january h.december
  have length : monthLength (monthIndex d.year d.month) = daysInMonth d.year d.month :=
    monthLength_monthIndex h.january h.december
  have ⟨_, _, first, last⟩ := h
  constructor
  · intro started
    by_contra early
    have later : firstDay (monthIndex d.year d.month + 1) ≤ firstDay index :=
      firstDay_mono (by omega)
    rw [firstDay_succ] at later
    omega
  · intro late
    have earlier := firstDay_mono late
    omega

-- Days of all numbers

/-- A day of a century of a cycle lies in the year that is computed for it. -/
theorem yearOfCentury_bounds (day century : Int) {year : Int} (least : 0 ≤ century)
    (greatest : century ≤ 3) (low : 36524 * century ≤ day)
    (high : day < 36524 * (century + 1) ∨ century = 3 ∧ day = 146096)
    (isYear : year = (day - day / 1460 + century) / 365)
    : 0 ≤ year ∧ year < 400 ∧ yearStart year ≤ day ∧ day < yearStart (year + 1) := by
  have inCentury : year / 100 = century := by omega
  have leapYears : year / 4 ≤ day / 1460 := by omega
  have inCycle : year / 400 = 0 := by omega
  refine ⟨by omega, by omega, ?_, ?_⟩
  · rw [yearStart, inCentury, inCycle]
    omega
  · rw [yearStart]
    by_cases last : year % 100 = 99
    · omega
    · have sameCentury : (year + 1) / 100 = century := by omega
      have nextLeapYears : day / 1460 ≤ (year + 1) / 4 := by omega
      rw [sameCentury]
      omega

theorem yearStart_cycle (cycle year : Int)
    : yearStart (400 * cycle + year) = 146097 * cycle + yearStart year := by
  unfold yearStart
  omega

/-- The day of a year that begins in March. -/
def ofYearDay (year day : Int) : CalendarDate :=
  let month := (5 * day + 2) / 153
  { year := if month < 10 then year else year + 1
    month := if month < 10 then month + 3 else month - 9
    day := day - (153 * month + 2) / 5 + 1 }

/-- A number leads to the day of the year that it lies in. -/
theorem ofDayNumber_eq (n : Int)
    : ∃ year, yearStart year ≤ n ∧ n < yearStart (year + 1)
      ∧ ofDayNumber n = ofYearDay year (n - yearStart year) := by
  have cycles := Int.mul_ediv_add_emod n 146097
  have ⟨low, high⟩ : 0 ≤ n % 146097 ∧ n % 146097 < 146097 := by omega
  obtain ⟨dayOfCycle, isDay⟩ : ∃ day, day = n % 146097 := ⟨_, rfl⟩
  obtain ⟨year, isYear⟩ : ∃ year,
      year = (dayOfCycle - dayOfCycle / 1460 + dayOfCycle / 36524 - dayOfCycle / 146096) / 365 :=
    ⟨_, rfl⟩
  rw [← isDay] at cycles low high
  obtain ⟨least, greatest, start, stop⟩ := yearOfCentury_bounds dayOfCycle
    (dayOfCycle / 36524 - dayOfCycle / 146096) (by omega) (by omega) (by omega) (by omega)
    (isYear.trans (by omega))
  have next : 400 * (n / 146097) + year + 1 = 400 * (n / 146097) + (year + 1) := by omega
  refine ⟨400 * (n / 146097) + year, ?_, ?_, ?_⟩
  · rw [yearStart_cycle]
    omega
  · rw [next, yearStart_cycle]
    omega
  · have within : n - yearStart (400 * (n / 146097) + year)
        = dayOfCycle - (365 * year + year / 4 - year / 100) := by
      have inCycle : year / 400 = 0 := by omega
      rw [yearStart_cycle, yearStart, inCycle]
      omega
    rw [within, ofDayNumber, ← isDay, ← isYear]
    rfl

/-- The days of a year are days of its months, numbered from its start. -/
theorem ofYearDay_spec (year day : Int) (low : 0 ≤ day)
    (high : yearStart year + day < yearStart (year + 1))
    : InMonth (ofYearDay year day)
      ∧ dayNumber (ofYearDay year day) = yearStart year + day := by
  have short : day < 366 := by
    have length := yearStart_sub_one (year + 1)
    rw [Int.add_sub_cancel] at length
    split at length <;> omega
  obtain ⟨month, isMonth⟩ : ∃ month, month = (5 * day + 2) / 153 := ⟨_, rfl⟩
  rw [ofYearDay, ← isMonth]
  by_cases early : month < 10
  · have fromMarch : month + 3 - 3 = month := by omega
    have fromMarch' : month + 3 - 2 = month + 1 := by omega
    simp only [if_pos early]
    refine ⟨.intro (by omega) (by omega) (by omega) ?_, ?_⟩
    · rw [daysInMonth_of_three_le (by omega) (by omega), fromMarch, fromMarch']
      omega
    · rw [dayNumber_of_three_le (by omega) (by omega), fromMarch]
      omega
  · simp only [if_neg early]
    refine ⟨.intro (by omega) (by omega) (by omega) ?_, ?_⟩
    · obtain rfl | rfl : month = 10 ∨ month = 11 := by omega
      · rw [show daysInMonth (year + 1) (10 - 9) = 31 from rfl]
        omega
      · rw [show daysInMonth (year + 1) (11 - 9) = daysInMonth (year + 1) 2 from rfl,
          daysInMonth_february, Int.add_sub_cancel]
        omega
    · rw [dayNumber_of_le_two (by omega) (by omega), Int.add_sub_cancel]
      omega

/-- The date of a number is a day of its month and has that number. -/
theorem ofDayNumber_spec (n : Int)
    : InMonth (ofDayNumber n) ∧ dayNumber (ofDayNumber n) = n := by
  obtain ⟨year, start, stop, date⟩ := ofDayNumber_eq n
  obtain ⟨inMonth, number⟩ :=
    ofYearDay_spec year (n - yearStart year) (by omega) (by omega)
  rw [date]
  exact ⟨inMonth, by omega⟩

end Spreadsheet.Calendar
