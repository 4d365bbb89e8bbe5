import Spreadsheet.Function.Catalog
import Spreadsheet.Proofs.Date.Serial
import Spreadsheet.Proofs.Number.Whole
import Spreadsheet.Proofs.Value.Resolve

/-! Functions of dates on serial numbers: the parts of a date and its serial number lead to one
another, in the order of the dates.
-/

namespace Spreadsheet

namespace Value

/-- A whole number as a value. -/
def whole (n : Int) : Value :=
  number (Float.ofInt n)

theorem resolve_whole (n : Int) (here : Position) : (whole n).resolve here = .ok (whole n) :=
  resolve_of_isScalar rfl rfl

end Value

open Value (whole)

variable {ctx : Context} {n : Int}

namespace DateFunction

theorem date_whole (system : DateSystem) (here : Position) (year : Int)
    : (whole n).date system here year = .ok (Float.ofInt n) := by
  rw [Value.date, Value.resolve_whole]
  rfl

theorem wholeSerial?_ofInt {system : DateSystem} (h : system.isSerial n)
    : wholeSerial? system (Float.ofInt n) = .ok n := by
  have small : n.natAbs < 2 ^ 53 := by
    have small : system.maxSerial < 2 ^ 53 := by cases system <;> decide
    simp only [DateSystem.isSerial, Bool.and_eq_true, decide_eq_true_eq] at h
    omega
  obtain ⟨b, read, floor, _⟩ := Number.ofFloat?_ofInt small
  unfold wholeSerial?
  simp only [read, floor, h, if_true]

/-- The part of the date that a serial number has. -/
theorem part_whole {field : CalendarDate → Int} (h : ctx.dates.isSerial n)
    (low : 0 ≤ field (ctx.dates.toDate n)) (high : field (ctx.dates.toDate n) < 2 ^ 53)
    : part field ctx (whole n) = whole (field (ctx.dates.toDate n)) := by
  unfold part
  rw [date_whole]
  change Value.ofNumber (do
    let serial ← wholeSerial? ctx.dates (Float.ofInt n)
    return Float.ofInt (field (ctx.dates.toDate serial))) = _
  rw [wholeSerial?_ofInt h]
  exact if_pos (Number.isFinite_ofInt low high)

/-- The integer that is nearest to `n` among those of 32 bits. -/
def clampWord (n : Int) : Int :=
  max (-0x80000000) (min 0x7fffffff n)

theorem clampWord_eq (low : -0x80000000 ≤ n) (high : n ≤ 0x7fffffff) : clampWord n = n := by
  unfold clampWord
  omega

/-- An integer that is out of range is brought into it. -/
theorem integer_clamped (small : n.natAbs < 2 ^ 53)
    : integer ctx (whole n) = .ok (clampWord n) := by
  obtain ⟨b, read, _, truncate⟩ := Number.ofFloat?_ofInt small
  have clamped : Number.clampToInt (-0x80000000) 0x7fffffff (Float.ofInt n) = clampWord n := by
    unfold Number.clampToInt
    simp only [read, truncate]
    rfl
  rw [integer, Context.number, Value.resolveNumber, Value.resolve_whole]
  exact congrArg Except.ok clamped

theorem integer_whole (low : -0x80000000 ≤ n) (high : n ≤ 0x7fffffff)
    : integer ctx (whole n) = .ok n := by
  rw [integer_clamped (by omega), clampWord_eq low high]

end DateFunction

/-- `YEAR`, `MONTH` and `DAY` of a serial number are the parts of a date. -/
structure Context.Shows (ctx : Context) (serial : Int) (d : CalendarDate) : Prop where
  year : Function.year.apply ctx [whole serial] = .ok (whole d.year)
  month : Function.month.apply ctx [whole serial] = .ok (whole d.month)
  day : Function.day.apply ctx [whole serial] = .ok (whole d.day)

section

variable {d : CalendarDate}

/-- The parts of a date that is counted are small. -/
theorem DateSystem.Counts.small {system : DateSystem} (h : system.Counts d)
    : (0 ≤ d.year ∧ d.year ≤ 9999) ∧ (0 ≤ d.month ∧ d.month ≤ 12) ∧ 0 ≤ d.day ∧ d.day ≤ 32 := by
  have ⟨first, last, january, december, _, lastDay⟩ := h
  have late : 0 ≤ system.firstYear := by cases system <;> decide
  have short := system.monthLength_le (Calendar.monthIndex d.year d.month)
  exact ⟨⟨by omega, last⟩, ⟨by omega, december⟩, h.day_nonneg, by omega⟩

/-- A serial number shows its date. -/
theorem Context.shows_toDate (h : ctx.dates.isSerial n) : ctx.Shows n (ctx.dates.toDate n) := by
  obtain ⟨counts, _⟩ := DateSystem.toDate_spec h
  obtain ⟨⟨hy, hy'⟩, ⟨hm, hm'⟩, hd, hd'⟩ := counts.small
  exact ⟨congrArg Except.ok (DateFunction.part_whole h hy (by omega)),
    congrArg Except.ok (DateFunction.part_whole h hm (by omega)),
    congrArg Except.ok (DateFunction.part_whole h hd (by omega))⟩

/-- `DATE` of the parts of a date is its serial number. -/
theorem Context.date_of_counts (h : ctx.dates.Counts d)
    : Function.date.apply ctx [whole d.year, whole d.month, whole d.day]
      = .ok (whole (ctx.dates.serialNumber d)) := by
  obtain ⟨⟨hy, hy'⟩, ⟨hm, hm'⟩, hd, hd'⟩ := h.small
  change Except.ok (DateFunction.date ctx (whole d.year) (whole d.month) (whole d.day)) = _
  rw [DateFunction.date, DateFunction.integer_whole (by omega) (by omega),
    DateFunction.integer_whole (by omega) (by omega),
    DateFunction.integer_whole (by omega) (by omega)]
  simp only [bind, Except.bind, DateSystem.ofParts?_eq h]
  rfl

end

/-- Serial numbers and dates lead to one another and have one order. Each serial number shows a
date whose parts have that serial number, a later one shows a later date, and each date of the
calendar up to the year 9999 has a serial number that shows it. The system of 1900 shows two days
more, 1900-01-00 and 1900-02-29.
-/
theorem Context.serials_count_dates (ctx : Context)
    : (∀ s, ctx.dates.isSerial s →
        let d := ctx.dates.toDate s
        ctx.Shows s d
          ∧ Function.date.apply ctx [whole d.year, whole d.month, whole d.day] = .ok (whole s))
      ∧ (∀ s t, ctx.dates.isSerial s → ctx.dates.isSerial t → s < t →
        (ctx.dates.toDate s).Before (ctx.dates.toDate t))
      ∧ (∀ d, Calendar.isDate d → ctx.dates.firstYear ≤ d.year → d.year ≤ 9999 →
        ∃ s, ctx.dates.ofDate? d = some s ∧ ctx.dates.isSerial s ∧ ctx.Shows s d)
      ∧ (ctx.dates = .from1900 → ctx.Shows 0 ⟨1900, 1, 0⟩ ∧ ctx.Shows 60 ⟨1900, 2, 29⟩) := by
  refine ⟨?_, ?_, ?_, ?_⟩
  · intro s serial d
    obtain ⟨counts, number⟩ := DateSystem.toDate_spec serial
    refine ⟨shows_toDate serial, ?_⟩
    rw [date_of_counts counts, number]
  · intro s t first second less
    obtain ⟨counts, number⟩ := DateSystem.toDate_spec first
    obtain ⟨counts', number'⟩ := DateSystem.toDate_spec second
    refine DateSystem.before_of_serialNumber_lt counts counts' ?_
    rwa [number, number']
  · intro d isDate first last
    have counts : ctx.dates.Counts d :=
      DateSystem.counts_of_inMonth (Calendar.inMonth_of_isDate isDate) first last
    have serial := DateSystem.isSerial_serialNumber counts
    have shown := shows_toDate serial
    rw [DateSystem.toDate_serialNumber counts] at shown
    exact ⟨_, DateSystem.ofDate?_eq isDate counts, serial, shown⟩
  · intro system
    have shown {s : Int} (serial : DateSystem.from1900.isSerial s)
        : ctx.Shows s (DateSystem.from1900.toDate s) := by
      rw [← system] at serial ⊢
      exact shows_toDate serial
    exact ⟨shown (by decide), shown (by decide)⟩

/-- Around the leap day of 1900. -/
theorem Context.serials_count_dates_leap_day
    : let ctx : Context := {}
      ctx.Shows 61 ⟨1900, 3, 1⟩
        ∧ Function.date.apply ctx [whole 1900, whole 3, whole 1] = .ok (whole 61)
        ∧ CalendarDate.Before ⟨1900, 2, 29⟩ ⟨1900, 3, 1⟩
        ∧ (∃ s, DateSystem.from1900.ofDate? ⟨9999, 12, 31⟩ = some s ∧ ctx.Shows s ⟨9999, 12, 31⟩)
        ∧ ctx.Shows 60 ⟨1900, 2, 29⟩ := by
  intro ctx
  obtain ⟨parts, order, dates, leap⟩ := ctx.serials_count_dates
  obtain ⟨shown, number⟩ := parts 61 (by decide)
  obtain ⟨s, counted, _, last⟩ := dates ⟨9999, 12, 31⟩ (by decide) (by decide) (by decide)
  exact ⟨shown, number, order 60 61 (by decide) (by decide) (by decide), ⟨s, counted, last⟩,
    (leap rfl).2⟩

end Spreadsheet
