import Spreadsheet.Proofs.Date.Text
import Spreadsheet.Proofs.Function.DateParts

/-! Arguments that are dates as text: they have the serial number that `DATE` gives to the date,
which is one of the current year if its text has no year.
-/

namespace Spreadsheet

namespace DateFunction

variable {ctx : Context}

/-- A text that is no number is read as a date. -/
theorem date_text {text : String} (noNumber : Number.parse? text = none) (system : DateSystem)
    (here : Position) (currentYear : Int)
    : (Value.text text).date system here currentYear
      = (DateText.serial? system text currentYear).elim (.error .value)
          fun n => .ok (Float.ofInt n) := by
  rw [Value.date, Value.resolve_of_isScalar rfl rfl]
  simp only [bind, Except.bind, noNumber]
  cases DateText.serial? system text currentYear <;> rfl

/-- A text that is read as a date has the number that `DATE` gives for the parts of the date, and is
`#VALUE!` if there is no such date or it lies before the first year of the system.
-/
theorem date_of_read {text : String} {d : CalendarDate} (noNumber : Number.parse? text = none)
    (read : DateText.date? text ctx.year = some d) (last : d.year ≤ 9999)
    : let argument := (Value.text text).date ctx.dates ctx.here ctx.year
      let counted := Calendar.isDate d ∧ ctx.dates.firstYear ≤ d.year
      (counted → ∃ x, argument = .ok x ∧ ctx.dateOf d.year d.month d.day = .ok (.number x))
        ∧ (¬counted → argument = .error .value) := by
  intro argument counted
  have serial : argument = (ctx.dates.ofDate? d).elim (.error .value)
      fun n => .ok (Float.ofInt n) := by
    rw [← Option.bind_some (f := ctx.dates.ofDate?), ← read]
    exact date_text noNumber ctx.dates ctx.here ctx.year
  constructor
  · rintro ⟨isDate, first⟩
    have counts : ctx.dates.Counts d :=
      DateSystem.counts_of_inMonth (Calendar.inMonth_of_isDate isDate) first last
    rw [DateSystem.ofDate?_eq isDate counts] at serial
    exact ⟨_, serial, Context.date_of_counts counts⟩
  · intro none
    rw [serial, DateSystem.ofDate?, if_neg]
    · rfl
    · simpa only [Bool.and_eq_true, decide_eq_true_eq] using none

end DateFunction

/-- Date text in every layout with a year agrees with `DATE`: with white space around it, and any
text behind that, a date of the Gregorian calendar that is not before the first year of the
system is the number that `DATE` gives for its year, month and day; any other date is `#VALUE!`.
-/
theorem Context.date_of_text (ctx : Context) (before written after : List Char)
    (year month day : Nat) (blank : ∀ c ∈ before, Unicode.isWhiteSpace c)
    (spells : DateText.Spells written year month day)
    (stops : Text.StopsAt (!Unicode.isWhiteSpace ·) after)
    : let text := Value.text (String.ofList (before ++ (written ++ after)))
      let counted := Calendar.isDate ⟨year, month, day⟩ ∧ ctx.dates.firstYear ≤ year
      (counted → ∃ x, text.date ctx.dates ctx.here ctx.year = .ok x
          ∧ ctx.dateOf year month day = .ok (.number x))
        ∧ (¬ counted → text.date ctx.dates ctx.here ctx.year = .error .value) := by
  have last : (year : Int) ≤ 9999 := by exact_mod_cast spells.year_le
  exact DateFunction.date_of_read (DateText.parse?_of_isWord blank spells.isWord after)
    (DateText.date?_of_spells blank spells stops ctx.year) last

/-- A leap day with the time of day, and the day that only the system of 1900 has. -/
theorem Context.date_of_text_leap_day
    : let ctx : Context := {}
      (∃ x, (Value.text " 29-FEB-2024 12:00").date ctx.dates ctx.here ctx.year = .ok x
          ∧ ctx.dateOf 2024 2 29 = .ok (.number x))
        ∧ (Value.text "1900/02/29").date ctx.dates ctx.here ctx.year = .error .value := by
  intro ctx
  have february : DateText.SpellsMonth ['F', 'E', 'B'] 2 :=
    .abbreviation (rfl : DateText.monthNames[1]? = some "february") (by decide)
  have leap : DateText.Spells "29-FEB-2024".toList 2024 2 29 :=
    @DateText.Spells.dayFirst ['2', '0', '2', '4'] ['F', 'E', 'B'] ['2', '9'] 2024 2 29
      ⟨⟨0, rfl⟩, by decide⟩ february ⟨⟨0, by decide⟩, rfl⟩
  have none : DateText.Spells "1900/02/29".toList 1900 2 29 :=
    @DateText.Spells.yearFirst ['1', '9', '0', '0'] ['0', '2'] ['2', '9'] 1900 2 29 '/' (.inr rfl)
      ⟨⟨0, by decide⟩, rfl⟩ (.digits ⟨⟨1, rfl⟩, by decide⟩) ⟨⟨0, rfl⟩, by decide⟩
  exact ⟨(ctx.date_of_text [' '] _ " 12:00".toList 2024 2 29
      (List.forall_mem_singleton.mpr (by decide)) leap
      (Text.stopsAt_cons (by decide))).1 (by decide),
    (ctx.date_of_text [] _ [] 1900 2 29 nofun none nofun).2 (by decide)⟩

/-- A month and a day without a year are a date of the current year. -/
theorem Context.date_of_text_without_year (ctx : Context) (before written after : List Char)
    (month day : Nat) (blank : ∀ c ∈ before, Unicode.isWhiteSpace c)
    (spells : DateText.SpellsMonthDay written month day)
    (stops : Text.StopsAt (!Unicode.isWhiteSpace ·) after) (last : ctx.year ≤ 9999)
    : let text := Value.text (String.ofList (before ++ (written ++ after)))
      let counted := Calendar.isDate ⟨ctx.year, month, day⟩ ∧ ctx.dates.firstYear ≤ ctx.year
      (counted → ∃ x, text.date ctx.dates ctx.here ctx.year = .ok x
          ∧ ctx.dateOf ctx.year month day = .ok (.number x))
        ∧ (¬counted → text.date ctx.dates ctx.here ctx.year = .error .value) :=
  DateFunction.date_of_read (DateText.parse?_of_isWord blank spells.isWord after)
    (DateText.date?_of_spellsMonthDay blank spells stops ctx.year) last

end Spreadsheet
