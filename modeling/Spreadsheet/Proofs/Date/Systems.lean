import Spreadsheet.Proofs.Date.Parts

/-! From March 1900 on the two systems count the same days: the serial numbers of a day are 1462
apart, and fall on the same day of the week.
-/

namespace Spreadsheet.DateSystem

open Calendar (monthIndex firstDay dayNumber)

variable {year month day n : Int}

/-- The serial number that 1904-01-01 has in the system of 1900. -/
def epochGap : Int := 1462

theorem monthStart_epochGap {index : Int} (march : monthIndex 1900 3 ≤ index)
    : from1900.monthStart index = from1904.monthStart index + epochGap := by
  have origins : dayNumber from1904.origin - dayNumber from1900.origin + 1 = epochGap := by decide
  have other : ¬ (from1904 = from1900 ∧ monthIndex 1900 3 ≤ index) := by
    rintro ⟨same, _⟩
    cases same
  rw [monthStart, monthStart, extraDay_eq, extraDay_eq, if_pos ⟨rfl, march⟩, if_neg other]
  omega

theorem isSerial_iff {system : DateSystem} : system.isSerial n ↔ 0 ≤ n ∧ n ≤ system.maxSerial := by
  simp only [isSerial, Bool.and_eq_true, decide_eq_true_eq]

/-- Serial numbers are small in both systems. -/
theorem bounds_of_isSerial {system : DateSystem} (serial : system.isSerial n)
    : 0 ≤ n ∧ n ≤ 2958465 := by
  have ⟨first, last⟩ := isSerial_iff.mp serial
  have latest : system.maxSerial ≤ 2958465 := by cases system <;> decide
  exact ⟨first, Int.le_trans last latest⟩

/-- The last serial numbers of the two systems stand for the same day. -/
theorem isSerial_from1904 : from1904.isSerial n ↔ from1900.isSerial (n + epochGap) ∧ 0 ≤ n := by
  have lastDays : from1900.maxSerial = from1904.maxSerial + epochGap := rfl
  have gap : epochGap = 1462 := rfl
  rw [isSerial_iff, isSerial_iff]
  omega

theorem isWeekday_epochGap : from1900.isWeekday (n + epochGap) = from1904.isWeekday n := by
  have sameDay : from1900.weekday (n + epochGap) = from1904.weekday n := by
    change (n + 1462 - 1) % 7 = (n + 5) % 7
    omega
  rw [isWeekday, isWeekday, sameDay]

/-- A serial number of the system of 1904 shows the same date as the one of 1900 for that day. -/
theorem toDate_epochGap (serial : from1904.isSerial n)
    : from1900.toDate (n + epochGap) = from1904.toDate n := by
  have origins : dayNumber from1904.origin - dayNumber from1900.origin + 1 = epochGap := by decide
  have ⟨first, _⟩ := isSerial_iff.mp serial
  have late : 60 < n + epochGap := by
    unfold epochGap
    omega
  have day : dayNumber from1900.origin + (n + epochGap - 1) = dayNumber from1904.origin + n := by
    omega
  unfold toDate
  dsimp only
  rw [if_neg (by omega), if_neg (by omega), if_pos late, day]

/-- Parts have a serial number in the system of 1904 if they have one in the system of 1900 that
is not before 1904-01-01.
-/
theorem ofParts?_epochGap (march : monthIndex 1900 3 ≤ monthOf year month)
    (december : monthOf year month ≤ monthIndex 10000 12)
    : from1904.ofParts? year month day = some n
      ↔ from1900.ofParts? year month day = some (n + epochGap) ∧ 0 ≤ n := by
  have hasYear (system : DateSystem) : system.hasYear (monthOf year month / 12) := by
    unfold monthIndex at march december
    cases system with
    | from1900 =>
      simp only [DateSystem.hasYear, Bool.and_eq_true, decide_eq_true_eq]
      omega
    | from1904 =>
      simp only [DateSystem.hasYear, Calendar.hasYear, Bool.and_eq_true, decide_eq_true_eq]
      omega
  have starts := monthStart_epochGap march
  have sameDay : n = from1904.monthStart (monthOf year month) + day - 1
      ↔ n + epochGap = from1900.monthStart (monthOf year month) + day - 1 := by omega
  rw [ofParts?_eq_some, ofParts?_eq_some, isSerial_from1904, sameDay]
  simp only [hasYear, true_and, and_assoc]

end Spreadsheet.DateSystem
