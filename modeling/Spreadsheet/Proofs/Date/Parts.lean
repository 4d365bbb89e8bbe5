import Spreadsheet.Proofs.Date.Serial

/-! Serial numbers of years, months and days of any size. Months are carried over into years, and
days are counted on from the month that comes of this, in whichever month they end up.
-/

namespace Spreadsheet.DateSystem

open Calendar (monthIndex firstDay dayNumber daysInMonth)

variable {system : DateSystem} {year month day serial : Int}

/-- The year that is meant, which may be counted from 1900. -/
def fullYear (year : Int) : Int :=
  if 0 ≤ year ∧ year < 1900 then year + 1900 else year

/-- The month that is meant, among all months. -/
def monthOf (year month : Int) : Int :=
  monthIndex (fullYear year) month

/-- The length of a month, which is 29 days for February 1900 in the system of 1900. -/
def daysIn (system : DateSystem) (year month : Int) : Int :=
  if system = from1900 ∧ year = 1900 ∧ month = 2 then 29 else daysInMonth year month

theorem monthLength_eq (index : Int)
    : system.monthLength index = system.daysIn (index / 12) (index % 12 + 1) := by
  have february : index = monthIndex 1900 2 ↔ index / 12 = 1900 ∧ index % 12 + 1 = 2 := by
    unfold monthIndex
    omega
  cases system with
  | from1900 =>
    rw [monthLength, daysIn, if_congr february rfl rfl, Calendar.monthLength]
    simp only [true_and]
    split
    · next here =>
      rw [here.1, here.2]
      rfl
    · exact Int.add_zero _
  | from1904 => simp [monthLength, daysIn, Calendar.monthLength]

theorem fullYear_of_le (late : 1900 ≤ year) : fullYear year = year :=
  if_neg fun early => absurd late (Int.not_le.mpr early.2)

theorem ofParts?_eq_filter
    : system.ofParts? year month day
      = if 0 ≤ fullYear year ∧ fullYear year ≤ 9999 then
          (system.serialOf? (monthOf year month / 12) (monthOf year month % 12 + 1) day).filter
            system.isSerial
        else none := by
  have full : (if 0 ≤ year && year < 1900 then year + 1900 else year) = fullYear year := by
    simp only [fullYear, Bool.and_eq_true, decide_eq_true_eq]
  have months : fullYear year * 12 + (month - 1) = monthOf year month := by
    unfold monthOf monthIndex
    omega
  unfold ofParts?
  simp only [full, months, Bool.or_eq_true, decide_eq_true_eq]
  by_cases inside : 0 ≤ fullYear year ∧ fullYear year ≤ 9999
  · rw [if_pos inside, if_neg (by omega)]
    cases system.serialOf? (monthOf year month / 12) (monthOf year month % 12 + 1) day with
    | none => rfl
    | some serial => exact (Option.filter_some ..).symm
  · rw [if_neg inside, if_pos (by omega)]

/-- When parts have a serial number, and which: the month has to be one whose days are counted, and
the day one that has a date.
-/
theorem ofParts?_eq_some
    : system.ofParts? year month day = some serial
      ↔ (0 ≤ year ∧ year ≤ 9999) ∧ system.hasYear (monthOf year month / 12)
        ∧ serial = system.monthStart (monthOf year month) + day - 1 ∧ system.isSerial serial := by
  have inside : (0 ≤ fullYear year ∧ fullYear year ≤ 9999) ↔ (0 ≤ year ∧ year ≤ 9999) := by
    unfold fullYear
    split <;> omega
  rw [ofParts?_eq_filter, if_congr inside rfl rfl, Option.ite_none_right_eq_some,
    Option.filter_eq_some_iff, serialOf?, Option.ite_none_right_eq_some, Option.some.injEq]
  constructor
  · rintro ⟨years, ⟨counted, rfl⟩, isSerial⟩
    exact ⟨years, counted, rfl, isSerial⟩
  · rintro ⟨years, counted, rfl, isSerial⟩
    exact ⟨years, ⟨counted, rfl⟩, isSerial⟩

/-- Whole years can be moved between year and month, as long as the year is written in full. -/
theorem ofParts?_carry {years : Int} (first : 1900 ≤ year) (last : year ≤ 9999)
    (first' : 1900 ≤ year + years) (last' : year + years ≤ 9999)
    : system.ofParts? (year + years) (month - 12 * years) day
      = system.ofParts? year month day := by
  have same : monthOf (year + years) (month - 12 * years) = monthOf year month := by
    rw [monthOf, monthOf, fullYear_of_le first, fullYear_of_le first']
    unfold monthIndex
    omega
  have inside : (0 ≤ year + years ∧ year + years ≤ 9999) ↔ (0 ≤ year ∧ year ≤ 9999) := by omega
  ext serial
  rw [ofParts?_eq_some, ofParts?_eq_some, same, inside]

/-- Days of one month are as far apart as their numbers. -/
theorem sub_eq_of_ofParts? {day' serial' : Int}
    (found : system.ofParts? year month day = some serial)
    (found' : system.ofParts? year month day' = some serial')
    : serial - serial' = day - day' := by
  obtain ⟨_, _, rfl, _⟩ := ofParts?_eq_some.mp found
  obtain ⟨_, _, rfl, _⟩ := ofParts?_eq_some.mp found'
  omega

/-- The first days of two months in a row are as far apart as the first of them is long. -/
theorem sub_eq_daysIn {serial' : Int} (found : system.ofParts? year month 1 = some serial)
    (found' : system.ofParts? year (month + 1) 1 = some serial')
    : serial' - serial
      = system.daysIn (monthOf year month / 12) (monthOf year month % 12 + 1) := by
  obtain ⟨_, _, rfl, _⟩ := ofParts?_eq_some.mp found
  obtain ⟨_, _, rfl, _⟩ := ofParts?_eq_some.mp found'
  have next : monthOf year (month + 1) = monthOf year month + 1 := Calendar.monthIndex_succ _ _
  rw [next, monthStart_succ, monthLength_eq]
  omega

theorem bounds_of_ofParts? (found : system.ofParts? year month day = some serial)
    : 0 ≤ serial ∧ serial ≤ system.maxSerial := by
  obtain ⟨_, _, _, isSerial⟩ := ofParts?_eq_some.mp found
  simpa only [DateSystem.isSerial, Bool.and_eq_true, decide_eq_true_eq] using isSerial

/-- No month is counted that lies as far off as no 32 bits reach. -/
theorem ofParts?_of_far_month (far : month ≤ -0x80000000 ∨ 0x7fffffff ≤ month)
    : system.ofParts? year month day = none := by
  refine Option.eq_none_iff_forall_ne_some.mpr fun serial found => ?_
  obtain ⟨⟨first, last⟩, counted, _⟩ := ofParts?_eq_some.mp found
  have inFull : 1900 ≤ fullYear year ∧ fullYear year ≤ 9999 := by
    unfold fullYear
    split <;> omega
  unfold monthOf monthIndex at counted
  cases system with
  | from1900 =>
    simp only [hasYear, Bool.and_eq_true, decide_eq_true_eq] at counted
    omega
  | from1904 =>
    simp only [hasYear, Calendar.hasYear, Bool.and_eq_true, decide_eq_true_eq] at counted
    omega

end Spreadsheet.DateSystem
