import Spreadsheet.Proofs.Function.DateParts
import Spreadsheet.Proofs.Function.WorkingDays

/-! The functions of dates in the two date systems: from March 1900 on they describe one calendar,
with serial numbers that are 1462 apart.
-/

namespace Spreadsheet

open DateSystem (epochGap monthOf)
open Value (whole)
open Word (Fits)

namespace DateFunction

variable {ctx : Context} {year month day n : Int}

/-- A serial number that `DATE` gives is that of its parts. -/
theorem dateOf_eq_whole_iff (fitsYear : Fits 32 year) (smallMonth : month.natAbs < 2 ^ 53)
    (fitsDay : Fits 32 day)
    : ctx.dateOf year month day = .ok (whole n) ↔ ctx.dates.ofParts? year month day = some n := by
  rw [date_eq fitsYear smallMonth fitsDay]
  cases found : ctx.dates.ofParts? year month day with
  | none =>
    constructor
    · intro equal
      cases equal
    · intro equal
      cases equal
  | some serial =>
    have isSerial := DateSystem.isSerial_iff.mpr (DateSystem.bounds_of_ofParts? found)
    have ⟨first, last⟩ := DateSystem.bounds_of_isSerial isSerial
    constructor
    · intro equal
      injection equal with equal
      injection equal with equal
      rw [(Number.ofInt_inj (by omega)).mp equal.symm]
    · intro equal
      injection equal with equal
      rw [equal]
      rfl

end DateFunction

variable {ctx1900 ctx1904 : Context} {first last : Int} {days : List Int}
  {holidays holidays' : Option Value}

/-- A serial number of the system of 1904 shows the date that the serial number of that day shows
in the system of 1900.
-/
theorem Context.shows_epochGap {n : Int} (is1900 : ctx1900.dates = .from1900)
    (is1904 : ctx1904.dates = .from1904) (serial : ctx1904.dates.isSerial n)
    : ∃ d, ctx1904.Shows n d ∧ ctx1900.Shows (n + epochGap) d := by
  refine ⟨_, shows_toDate serial, ?_⟩
  rw [is1904] at serial ⊢
  rw [← DateSystem.toDate_epochGap serial, ← is1900]
  refine shows_toDate ?_
  rw [is1900]
  exact (DateSystem.isSerial_from1904.mp serial).1

/-- Between two days there are as many working days in one system as in the other. -/
theorem DateFunction.countBetween_epochGap (serialFirst : DateSystem.from1904.isSerial first)
    (serialLast : DateSystem.from1904.isSerial last)
    : countBetween .from1904 (days.map Float.ofInt) first last
      = countBetween .from1900 ((days.map (· + epochGap)).map Float.ofInt) (first + epochGap)
          (last + epochGap) := by
  have ⟨afterFirst, beforeFirst⟩ := DateSystem.isSerial_iff.mp serialFirst
  have ⟨afterLast, beforeLast⟩ := DateSystem.isSerial_iff.mp serialLast
  have smaller : min (first + epochGap) (last + epochGap) = min first last + epochGap := by omega
  have larger : max (first + epochGap) (last + epochGap) = max first last + epochGap := by omega
  rw [countBetween, countBetween, smaller, larger]
  refine DateSystem.card_workingDays_epochGap fun day start stop => ?_
  have serial : DateSystem.from1904.isSerial day :=
    DateSystem.isSerial_iff.mpr ⟨by omega, by omega⟩
  rw [mem_daysOff_ofInt serial, mem_daysOff_ofInt (DateSystem.isSerial_from1904.mp serial).1,
    List.mem_map]
  simp

/-- `NETWORKDAYS` counts the same working days in both systems. -/
theorem Context.workingDaysOf_epochGap (is1900 : ctx1900.dates = .from1900)
    (is1904 : ctx1904.dates = .from1904) (serialFirst : ctx1904.dates.isSerial first)
    (serialLast : ctx1904.dates.isSerial last) (lists : Value.Lists holidays (days.map whole))
    (lists' : Value.Lists holidays' ((days.map (· + epochGap)).map whole))
    : ∃ x, ctx1904.workingDaysOf (whole first) (whole last) holidays = .ok (.number x)
      ∧ ctx1900.workingDaysOf (whole (first + epochGap)) (whole (last + epochGap)) holidays'
        = .ok (.number x) := by
  refine ⟨_, (DateFunction.spans_whole serialFirst serialLast).workingDaysOf_eq_number
    (DateFunction.dates_whole lists), ?_⟩
  rw [is1904] at serialFirst serialLast ⊢
  have spans : ctx1900.Spans (whole (first + epochGap)) (whole (last + epochGap))
      (first + epochGap) (last + epochGap) := by
    refine DateFunction.spans_whole ?_ ?_
    · rw [is1900]
      exact (DateSystem.isSerial_from1904.mp serialFirst).1
    · rw [is1900]
      exact (DateSystem.isSerial_from1904.mp serialLast).1
  rw [spans.workingDaysOf_eq_number (DateFunction.dates_whole lists'), is1900,
    ← DateFunction.countBetween_epochGap serialFirst serialLast]
  simp only [Int.add_le_add_iff_right]

/-- The two date systems describe one calendar, 1462 days apart. Parts of a date from March 1900 on
have a serial number in the system of 1904 if and only if they have one that is larger by 1462
in the system of 1900, and not an earlier one than that of 1904-01-01; serial numbers of one day
show the same date, and between the same days, with the same holidays, there are as many working
days.
-/
theorem Context.date_systems_agree (ctx1900 ctx1904 : Context)
    (is1900 : ctx1900.dates = .from1900) (is1904 : ctx1904.dates = .from1904)
    : (∀ year month day n, Fits 32 year → Fits 32 month → Fits 32 day →
        Calendar.monthIndex 1900 3 ≤ monthOf year month →
        monthOf year month ≤ Calendar.monthIndex 10000 12 →
        (ctx1904.dateOf year month day = .ok (whole n)
          ↔ ctx1900.dateOf year month day = .ok (whole (n + 1462)) ∧ 0 ≤ n))
      ∧ (∀ n, ctx1904.dates.isSerial n → ∃ d, ctx1904.Shows n d ∧ ctx1900.Shows (n + 1462) d)
      ∧ (∀ first last (days : List Int) holidays holidays', ctx1904.dates.isSerial first →
        ctx1904.dates.isSerial last → Value.Lists holidays (days.map whole) →
        Value.Lists holidays' ((days.map (· + 1462)).map whole) →
        ∃ x, ctx1904.workingDaysOf (whole first) (whole last) holidays = .ok (.number x)
          ∧ ctx1900.workingDaysOf (whole (first + 1462)) (whole (last + 1462)) holidays'
            = .ok (.number x)) := by
  refine ⟨?date, ?parts, ?workingDays⟩
  case date =>
    intro year month day n fitsYear fitsMonth fitsDay march december
    have bounds := Word.fits_32.mp fitsMonth
    rw [DateFunction.dateOf_eq_whole_iff fitsYear (by omega) fitsDay,
      DateFunction.dateOf_eq_whole_iff fitsYear (by omega) fitsDay, is1900, is1904]
    exact DateSystem.ofParts?_epochGap march december
  case parts =>
    intro n serial
    exact shows_epochGap is1900 is1904 serial
  case workingDays =>
    intro first last days holidays holidays' serialFirst serialLast lists lists'
    exact workingDaysOf_epochGap is1900 is1904 serialFirst serialLast lists lists'

/-- Around 1904-02-29, with the day itself a holiday. -/
theorem Context.date_systems_agree_leap_day
    : let ctx1900 : Context := {}
      let ctx1904 : Context := { book := some { Workbook.new with dates := .from1904 } }
      ctx1904.dateOf 1903 14 29 = .ok (whole 59) ∧ ctx1900.dateOf 1903 14 29 = .ok (whole 1521)
        ∧ (∃ d, ctx1904.Shows 59 d ∧ ctx1900.Shows 1521 d)
        ∧ ∃ x, ctx1904.workingDaysOf (whole 58) (whole 60) (some (whole 59)) = .ok (.number x)
          ∧ ctx1900.workingDaysOf (whole 1520) (whole 1522) (some (whole 1521))
            = .ok (.number x) := by
  intro ctx1900 ctx1904
  obtain ⟨parts, shown, counted⟩ := ctx1900.date_systems_agree ctx1904 rfl rfl
  have leapDay : ctx1904.dateOf 1903 14 29 = .ok (whole 59) :=
    (DateFunction.dateOf_eq_whole_iff (by decide) (by decide) (by decide)).mpr (by decide)
  have both := parts 1903 14 29 59 (by decide) (by decide) (by decide) (by decide) (by decide)
  exact ⟨leapDay, (both.mp leapDay).1, shown 59 (by decide),
    counted 58 60 [59] _ _ (by decide) (by decide)
      (@Value.Lists.scalar (whole 59) rfl nofun) (@Value.Lists.scalar (whole 1521) rfl nofun)⟩

end Spreadsheet
