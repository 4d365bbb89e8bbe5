import Spreadsheet.Proofs.Date.Overflow
import Spreadsheet.Proofs.Function.Date

/-! `DATE` of integers of any size: months are carried over into years, days are counted on from
the first day of the month, and what comes of it is a serial number or no number at all.
-/

namespace Spreadsheet

open Value (whole)
open Word (Fits)

variable {ctx : Context} {year month day : Int}

/-- `DATE` of three integers. -/
def Context.dateOf (ctx : Context) (year month day : Int) : Outcome :=
  Function.date.apply ctx [whole year, whole month, whole day]

/-- The number is a serial number of the system. -/
structure DateSystem.IsSerialNumber (system : DateSystem) (x : Float) (serial : Int) : Prop where
  eq : x = Float.ofInt serial
  nonneg : 0 ≤ serial
  le : serial ≤ system.maxSerial

namespace DateFunction

/-- Whole numbers are taken as the integers of 32 bits that are nearest to them. -/
theorem date_clamped (smallYear : year.natAbs < 2 ^ 53) (smallMonth : month.natAbs < 2 ^ 53)
    (smallDay : day.natAbs < 2 ^ 53)
    : ctx.dateOf year month day
      = .ok ((ctx.dates.ofParts? (clampWord year) (clampWord month) (clampWord day)).elim
          (.error .num) whole) := by
  change Except.ok (date ctx (whole year) (whole month) (whole day)) = _
  rw [date, integer_clamped smallYear, integer_clamped smallMonth, integer_clamped smallDay]
  simp only [bind, Except.bind]
  cases ctx.dates.ofParts? (clampWord year) (clampWord month) (clampWord day) with
  | none => rfl
  | some serial => rfl

/-- Only the year and the day have to be integers of 32 bits: a month that is not one is too far
off in any case.
-/
theorem date_eq (fitsYear : Fits 32 year) (smallMonth : month.natAbs < 2 ^ 53)
    (fitsDay : Fits 32 day)
    : ctx.dateOf year month day
      = .ok ((ctx.dates.ofParts? year month day).elim (.error .num) whole) := by
  rw [Word.fits_32] at fitsYear fitsDay
  rw [date_clamped (by omega) smallMonth (by omega), clampWord_eq fitsYear.1 fitsYear.2,
    clampWord_eq fitsDay.1 fitsDay.2]
  by_cases near : -0x80000000 ≤ month ∧ month ≤ 0x7fffffff
  · rw [clampWord_eq near.1 near.2]
  · have far : month ≤ -0x80000000 ∨ 0x7fffffff ≤ month := by omega
    have farClamped : clampWord month ≤ -0x80000000 ∨ 0x7fffffff ≤ clampWord month := by
      unfold clampWord
      omega
    rw [DateSystem.ofParts?_of_far_month far, DateSystem.ofParts?_of_far_month farClamped]

/-- A number that comes out is a serial number. -/
theorem exists_of_date_eq_number {x : Float} (fitsYear : Fits 32 year)
    (smallMonth : month.natAbs < 2 ^ 53) (fitsDay : Fits 32 day)
    (number : ctx.dateOf year month day = .ok (.number x))
    : ∃ serial, ctx.dates.ofParts? year month day = some serial
      ∧ ctx.dates.IsSerialNumber x serial := by
  rw [date_eq fitsYear smallMonth fitsDay] at number
  cases found : ctx.dates.ofParts? year month day with
  | none =>
    rw [found] at number
    cases number
  | some serial =>
    rw [found] at number
    cases number
    have ⟨first, last⟩ := DateSystem.bounds_of_ofParts? found
    exact ⟨serial, rfl, rfl, first, last⟩

end DateFunction

open DateSystem (monthOf)

/-- `DATE` carries months over into years and counts days on from the first day of a month. For
integers of 32 bits, whole years can be moved between year and month, days of one month are as far
apart as their numbers, months follow one another in their lengths, and without an overflow
comes either a serial number or `#NUM!`.
-/
theorem Context.date_of_parts (ctx : Context) (year month day : Int) (fitsYear : Fits 32 year)
    (fitsMonth : Fits 32 month) (fitsDay : Fits 32 day)
    : (∀ years, 1900 ≤ year → year ≤ 9999 → 1900 ≤ year + years → year + years ≤ 9999 →
        ctx.dateOf (year + years) (month - 12 * years) day = ctx.dateOf year month day)
      ∧ (∀ day' x x', Fits 32 day' →
        ctx.dateOf year month day = .ok (.number x) →
        ctx.dateOf year month day' = .ok (.number x') →
        ∃ s s', ctx.dates.IsSerialNumber x s ∧ ctx.dates.IsSerialNumber x' s'
          ∧ s - s' = day - day')
      ∧ (∀ x x',
        ctx.dateOf year month 1 = .ok (.number x) →
        ctx.dateOf year (month + 1) 1 = .ok (.number x') →
        ∃ s s', ctx.dates.IsSerialNumber x s ∧ ctx.dates.IsSerialNumber x' s'
          ∧ s' - s = ctx.dates.daysIn (monthOf year month / 12) (monthOf year month % 12 + 1))
      ∧ ∃ serial?, ctx.dates.partsInWords year month day = .ok serial?
        ∧ ctx.dateOf year month day = .ok (serial?.elim (.error .num) whole)
        ∧ ∀ s ∈ serial?, 0 ≤ s ∧ s ≤ ctx.dates.maxSerial := by
  have fitsOne : Fits 32 1 := by decide
  have bounds := Word.fits_32.mp fitsMonth
  refine ⟨?carry, ?days, ?months, ?range⟩
  case carry =>
    intro years first last first' last'
    have fitsYear' : Fits 32 (year + years) := Word.fits_32.mpr (by omega)
    rw [DateFunction.date_eq fitsYear' (by omega) fitsDay,
      DateFunction.date_eq fitsYear (by omega) fitsDay,
      DateSystem.ofParts?_carry first last first' last']
  case days =>
    intro day' x x' fitsDay' number number'
    obtain ⟨s, found, isSerial⟩ :=
      DateFunction.exists_of_date_eq_number fitsYear (by omega) fitsDay number
    obtain ⟨s', found', isSerial'⟩ :=
      DateFunction.exists_of_date_eq_number fitsYear (by omega) fitsDay' number'
    exact ⟨s, s', isSerial, isSerial', DateSystem.sub_eq_of_ofParts? found found'⟩
  case months =>
    intro x x' number number'
    obtain ⟨s, found, isSerial⟩ :=
      DateFunction.exists_of_date_eq_number fitsYear (by omega) fitsOne number
    obtain ⟨s', found', isSerial'⟩ :=
      DateFunction.exists_of_date_eq_number fitsYear (by omega) fitsOne number'
    exact ⟨s, s', isSerial, isSerial', DateSystem.sub_eq_daysIn found found'⟩
  case range =>
    exact ⟨_, DateSystem.partsInWords_eq fitsMonth fitsDay,
      DateFunction.date_eq fitsYear (by omega) fitsDay,
      fun s found => DateSystem.bounds_of_ofParts? found⟩

/-- In February 1900, which is also the tenth month before December 1900. -/
theorem Context.date_of_parts_february
    : let ctx : Context := {}
      ctx.dateOf 1900 2 1 = ctx.dateOf 1901 (-10) 1
        ∧ (∃ s s', ctx.dates.IsSerialNumber (Float.ofInt 60) s
          ∧ ctx.dates.IsSerialNumber (Float.ofInt 32) s' ∧ s - s' = 29 - 1)
        ∧ (∃ s s', ctx.dates.IsSerialNumber (Float.ofInt 32) s
          ∧ ctx.dates.IsSerialNumber (Float.ofInt 61) s' ∧ s' - s = 29)
        ∧ ∃ serial?, ctx.dates.partsInWords 1901 (-10) 29 = .ok serial?
          ∧ ctx.dateOf 1901 (-10) 29 = .ok (serial?.elim (.error .num) whole) := by
  intro ctx
  have shown {month day serial : Int} (small : month.natAbs < 2 ^ 53) (fits : Fits 32 day)
      (found : DateSystem.from1900.ofParts? 1901 month day = some serial)
      : ctx.dateOf 1901 month day = .ok (whole serial) := by
    rw [DateFunction.date_eq (by decide) small fits]
    exact congrArg (fun serial? => Except.ok (serial?.elim (.error .num) whole)) found
  have first : ctx.dateOf 1901 (-10) 1 = .ok (whole 32) := shown (by decide) (by decide) (by decide)
  have last : ctx.dateOf 1901 (-10) 29 = .ok (whole 60) :=
    shown (by decide) (by decide) (by decide)
  have next : ctx.dateOf 1901 (-9) 1 = .ok (whole 61) := shown (by decide) (by decide) (by decide)
  obtain ⟨carry, _, months, _⟩ :=
    ctx.date_of_parts 1901 (-10) 1 (by decide) (by decide) (by decide)
  obtain ⟨_, days, _, serial?, computed, result, _⟩ :=
    ctx.date_of_parts 1901 (-10) 29 (by decide) (by decide) (by decide)
  have sameMonth := carry (-1) (by decide) (by decide) (by decide) (by decide)
  have sameStart := days 1 _ _ (by decide) last first
  have leapDay := months _ _ first next
  exact ⟨sameMonth, sameStart, leapDay, serial?, computed, result⟩

end Spreadsheet
