import Spreadsheet.Date.Serial
import Spreadsheet.Proofs.Date.Calendar

/-! Serial numbers count the dates of a system in their order, with the leap day of 1900 and the
day before 1900-01-01 among those of the system of 1900.
-/

namespace Spreadsheet

/-- One date comes before another. -/
def CalendarDate.Before (d e : CalendarDate) : Prop :=
  d.year < e.year ∨ d.year = e.year ∧ (d.month < e.month ∨ d.month = e.month ∧ d.day < e.day)

theorem CalendarDate.before_or_eq_or_before (d e : CalendarDate)
    : d.Before e ∨ d = e ∨ e.Before d := by
  obtain ⟨year, month, day⟩ := d
  obtain ⟨year', month', day'⟩ := e
  simp only [Before, mk.injEq]
  omega

namespace DateSystem

open Calendar (monthIndex firstDay dayNumber daysInMonth InMonth)

-- Months by serial number

/-- The length of a month, with the leap day of 1900. -/
def monthLength : DateSystem → Int → Int
  | from1900, index => Calendar.monthLength index + if index = monthIndex 1900 2 then 1 else 0
  | from1904, index => Calendar.monthLength index

/-- The serial number that a month begins with. -/
def monthStart (system : DateSystem) (index : Int) : Int :=
  firstDay index - dayNumber system.origin + system.extraDay (index / 12) (index % 12 + 1)

variable {system : DateSystem} {d e : CalendarDate}

/-- The extra day is counted from March 1900 on. -/
theorem extraDay_eq (index : Int)
    : system.extraDay (index / 12) (index % 12 + 1)
      = if system = from1900 ∧ monthIndex 1900 3 ≤ index then 1 else 0 := by
  cases system with
  | from1900 =>
    unfold extraDay monthIndex
    simp only [Bool.or_eq_true, Bool.and_eq_true, decide_eq_true_eq, true_and]
    refine if_congr ?_ rfl rfl
    omega
  | from1904 => rfl

/-- A month begins when the month before it is over. -/
theorem monthStart_succ (index : Int)
    : system.monthStart (index + 1) = system.monthStart index + system.monthLength index := by
  have next := Calendar.firstDay_succ index
  rw [monthStart, monthStart, extraDay_eq, extraDay_eq]
  cases system with
  | from1900 =>
    have march : monthIndex 1900 3 = monthIndex 1900 2 + 1 := rfl
    simp only [monthLength, true_and]
    split <;> split <;> split <;> omega
  | from1904 =>
    simp only [monthLength, reduceCtorEq, false_and, if_false]
    omega

theorem monthStart_mono {index later : Int} (h : index ≤ later)
    : system.monthStart index ≤ system.monthStart later := by
  induction later, h using Int.leInduction with
  | base => exact Int.le_refl _
  | succ later _ ih =>
    have long : 28 ≤ system.monthLength later := by
      have short := Calendar.le_daysInMonth (later / 12) (later % 12 + 1)
      cases system with
      | from1900 =>
        rw [monthLength, Calendar.monthLength]
        split <;> omega
      | from1904 => exact short
    rw [monthStart_succ]
    omega

-- Dates in their order

/-- The date is one that the system counts: a day of a month of the years up to 9999, or the day
that the system of 1900 has before its first.
-/
structure Counts (system : DateSystem) (d : CalendarDate) : Prop where
  firstYear : system.firstYear ≤ d.year
  lastYear : d.year ≤ 9999
  january : 1 ≤ d.month
  december : d.month ≤ 12
  firstDay : 1 ≤ d.day ∨ system = from1900 ∧ d = ⟨1900, 1, 0⟩
  lastDay : d.day ≤ system.monthLength (monthIndex d.year d.month)

/-- The serial number of a date that the system counts. -/
def serialNumber (system : DateSystem) (d : CalendarDate) : Int :=
  system.monthStart (monthIndex d.year d.month) + d.day - 1

/-- Serial numbers grow with the dates. -/
theorem serialNumber_lt (hd : system.Counts d) (he : system.Counts e) (before : d.Before e)
    : system.serialNumber d < system.serialNumber e := by
  have order : monthIndex d.year d.month < monthIndex e.year e.month
      ∨ monthIndex d.year d.month = monthIndex e.year e.month ∧ d.day < e.day := by
    have ⟨_, _, _, _, _, _⟩ := hd
    have ⟨_, _, _, _, _, _⟩ := he
    unfold CalendarDate.Before at before
    unfold monthIndex
    omega
  rw [serialNumber, serialNumber]
  rcases order with earlier | ⟨same, earlier⟩
  · have next : system.monthStart (monthIndex d.year d.month + 1)
        ≤ system.monthStart (monthIndex e.year e.month) :=
      monthStart_mono (Int.add_one_le_of_lt earlier)
    have last := hd.lastDay
    rw [monthStart_succ] at next
    rcases he.firstDay with first | ⟨rfl, rfl⟩
    · omega
    · have firstYear : 1900 ≤ d.year := hd.firstYear
      have january := hd.january
      unfold monthIndex at earlier
      dsimp only at earlier
      omega
  · rw [same]
    omega

theorem before_of_serialNumber_lt (hd : system.Counts d) (he : system.Counts e)
    (less : system.serialNumber d < system.serialNumber e)
    : d.Before e := by
  rcases d.before_or_eq_or_before e with before | rfl | after
  · exact before
  · exact absurd less (Int.lt_irrefl _)
  · exact absurd (Int.lt_trans less (serialNumber_lt he hd after)) (Int.lt_irrefl _)

theorem eq_of_serialNumber_eq (hd : system.Counts d) (he : system.Counts e)
    (same : system.serialNumber d = system.serialNumber e)
    : d = e := by
  rcases d.before_or_eq_or_before e with before | rfl | after
  · exact absurd same (Int.ne_of_lt (serialNumber_lt hd he before))
  · rfl
  · exact absurd same (Int.ne_of_gt (serialNumber_lt he hd after))

theorem Counts.day_nonneg (h : system.Counts d) : 0 ≤ d.day := by
  rcases h.firstDay with first | ⟨rfl, rfl⟩
  · omega
  · decide

theorem monthLength_le (index : Int) : system.monthLength index ≤ 32 := by
  have long := Calendar.daysInMonth_le (index / 12) (index % 12 + 1)
  cases system with
  | from1900 =>
    rw [monthLength, Calendar.monthLength]
    split <;> omega
  | from1904 =>
    rw [monthLength, Calendar.monthLength]
    omega

theorem counts_of_inMonth (h : InMonth d) (first : system.firstYear ≤ d.year)
    (last : d.year ≤ 9999)
    : system.Counts d where
  firstYear := first
  lastYear := last
  january := h.january
  december := h.december
  firstDay := .inl h.first
  lastDay := by
    have length : Calendar.monthLength (monthIndex d.year d.month) = daysInMonth d.year d.month :=
      Calendar.monthLength_monthIndex h.january h.december
    have within := h.last
    cases system with
    | from1900 =>
      rw [monthLength]
      split <;> omega
    | from1904 =>
      rw [monthLength]
      omega

-- Dates of serial numbers

/-- A day number between the first year of the system and the year 10000 has a date that the
system counts, with the extra day from March 1900 on.
-/
theorem ofDayNumber_spec (system : DateSystem) (n : Int)
    (first : firstDay (monthIndex system.firstYear 1) ≤ n)
    (last : n < firstDay (monthIndex 10000 1))
    : system.Counts (Calendar.ofDayNumber n)
      ∧ system.serialNumber (Calendar.ofDayNumber n)
        = n - dayNumber system.origin
          + if system = from1900 ∧ firstDay (monthIndex 1900 3) ≤ n then 1 else 0 := by
  obtain ⟨inMonth, number⟩ := Calendar.ofDayNumber_spec n
  obtain ⟨d, isDate⟩ : ∃ d, d = Calendar.ofDayNumber n := ⟨_, rfl⟩
  rw [← isDate] at inMonth number ⊢
  have ⟨january, december, _, _⟩ := inMonth
  rw [← number, inMonth.firstDay_le_iff] at first
  rw [← number, ← Int.not_le, inMonth.firstDay_le_iff] at last
  refine ⟨counts_of_inMonth inMonth ?_ ?_, ?_⟩
  · unfold monthIndex at first
    omega
  · unfold monthIndex at last
    omega
  · rw [serialNumber, monthStart, extraDay_eq, ← number,
      if_congr (and_congr_right fun _ => inMonth.firstDay_le_iff) rfl rfl,
      Calendar.dayNumber_eq_firstDay january december]
    omega

/-- Every serial number is that of the date that is shown for it. -/
theorem toDate_spec {serial : Int} (h : system.isSerial serial)
    : system.Counts (system.toDate serial)
      ∧ system.serialNumber (system.toDate serial) = serial := by
  simp only [isSerial, Bool.and_eq_true, decide_eq_true_eq] at h
  obtain ⟨low, high⟩ := h
  cases system with
  | from1904 =>
    have first : firstDay (monthIndex 1904 1) = dayNumber from1904.origin := by decide
    have last : firstDay (monthIndex 10000 1) = dayNumber from1904.origin + 2957004 := by decide
    rw [maxSerial] at high
    obtain ⟨counts, number⟩ := ofDayNumber_spec from1904
      (dayNumber from1904.origin + serial) (by rw [firstYear]; omega) (by omega)
    refine ⟨counts, number.trans ?_⟩
    rw [if_neg (fun both => nomatch both.1)]
    omega
  | from1900 =>
    have first : firstDay (monthIndex 1900 1) = dayNumber from1900.origin + 1 := by decide
    have march : firstDay (monthIndex 1900 3) = dayNumber from1900.origin + 60 := by decide
    have last : firstDay (monthIndex 10000 1) = dayNumber from1900.origin + 2958465 := by decide
    rw [maxSerial] at high
    unfold toDate
    dsimp only
    split
    · next zero =>
      subst zero
      exact ⟨⟨by decide, by decide, by decide, by decide, .inr ⟨rfl, rfl⟩, by decide⟩, by decide⟩
    · split
      · next sixty =>
        subst sixty
        exact ⟨⟨by decide, by decide, by decide, by decide, .inl (by decide), by decide⟩,
          by decide⟩
      · next notZero notSixty =>
        obtain ⟨counts, number⟩ := ofDayNumber_spec from1900
          (dayNumber from1900.origin + if 60 < serial then serial - 1 else serial)
          (by rw [firstYear]; split <;> omega) (by split <;> omega)
        refine ⟨counts, number.trans ?_⟩
        rw [march]
        simp only [true_and]
        split <;> split <;> omega

theorem serialOf?_eq (h : system.Counts d)
    : system.serialOf? d.year d.month d.day = some (system.serialNumber d) := by
  have ⟨first, last, january, december, _, _⟩ := h
  have hasYear : system.hasYear d.year := by
    cases system with
    | from1900 =>
      rw [firstYear] at first
      simp only [DateSystem.hasYear, Bool.and_eq_true, decide_eq_true_eq]
      omega
    | from1904 =>
      rw [firstYear] at first
      simp only [DateSystem.hasYear, Calendar.hasYear, Bool.and_eq_true, decide_eq_true_eq]
      omega
  rw [serialOf?, if_pos hasYear, serialNumber, monthStart,
    Calendar.firstDay_monthIndex january december, Calendar.monthIndex_div january december,
    Calendar.monthIndex_mod january december]

theorem isSerial_serialNumber (h : system.Counts d) : system.isSerial (system.serialNumber d) := by
  have ⟨first, last, january, december, firstDay, lastDay⟩ := h
  have start : system.monthStart (monthIndex system.firstYear 1)
      ≤ system.monthStart (monthIndex d.year d.month) :=
    monthStart_mono (by unfold monthIndex; omega)
  have stop : system.monthStart (monthIndex d.year d.month + 1)
      ≤ system.monthStart (monthIndex 10000 1) :=
    monthStart_mono (by unfold monthIndex; omega)
  rw [monthStart_succ] at stop
  simp only [isSerial, Bool.and_eq_true, decide_eq_true_eq]
  rcases firstDay with firstDay | ⟨rfl, rfl⟩
  · have range : 0 ≤ system.monthStart (monthIndex system.firstYear 1)
        ∧ system.monthStart (monthIndex 10000 1) = system.maxSerial + 1 := by
      cases system <;> decide
    rw [serialNumber]
    omega
  · decide

theorem toDate_serialNumber (h : system.Counts d)
    : system.toDate (system.serialNumber d) = d := by
  obtain ⟨counts, number⟩ := toDate_spec (isSerial_serialNumber h)
  exact eq_of_serialNumber_eq counts h number

/-- The parts of a date lead back to its serial number. -/
theorem ofParts?_eq (h : system.Counts d)
    : system.ofParts? d.year d.month d.day = some (system.serialNumber d) := by
  have ⟨first, last, january, december, _, _⟩ := h
  have late : 1900 ≤ system.firstYear := by cases system <;> decide
  have months : d.year * 12 + (d.month - 1) = monthIndex d.year d.month := by
    unfold monthIndex
    omega
  have kept : (if 0 ≤ d.year && d.year < 1900 then d.year + 1900 else d.year) = d.year := by
    rw [if_neg]
    simp only [Bool.and_eq_true, decide_eq_true_eq]
    omega
  unfold ofParts?
  simp only [kept, months, Calendar.monthIndex_div january december,
    Calendar.monthIndex_mod january december, serialOf?_eq h, isSerial_serialNumber h]
  rw [if_neg]
  · rfl
  · simp only [Bool.or_eq_true, decide_eq_true_eq]
    omega

theorem ofDate?_eq (isDate : Calendar.isDate d) (h : system.Counts d)
    : system.ofDate? d = some (system.serialNumber d) := by
  have first := h.firstYear
  rw [ofDate?, if_pos (by simp only [isDate, first, decide_true, Bool.and_self]), serialOf?_eq h]

end DateSystem

end Spreadsheet
