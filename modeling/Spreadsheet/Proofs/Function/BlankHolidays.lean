import Spreadsheet.Proofs.Function.WorkingDays

/-! Blank cells among holidays: an area lists one date for each cell, and the date of a blank one is
the serial number 0, a weekday in the system of 1904 only.
-/

namespace Spreadsheet

open DateFunction
open Value (whole)

-- The cells that are not blank

namespace Area

variable {a : Area Value}

/-- The values of all cells covered that are not blank, row by row. -/
def filledValues (a : Area Value) : List Value :=
  a.allValues.filter fun value => !Scalar.isBlank value

/-- The area covers a blank cell. -/
def hasBlank (a : Area Value) : Prop :=
  ∃ value ∈ a.allValues, Scalar.isBlank value

theorem filledValues_of_stored_nothing (nothing : a.cells = #[]) : a.filledValues = [] := by
  have blank (index : Nat) : a.valueAt index = .blank := by
    unfold valueAt
    cases found : a.stored? (index / a.width) (index % a.width) with
    | none => rfl
    | some value =>
      have stored := mem_of_stored? found
      rw [nothing] at stored
      exact absurd stored (Array.not_mem_empty value)
  refine List.filter_eq_nil_iff.mpr fun value mem => ?_
  simp only [allValues, entries, firstEntries, List.map_map, List.mem_map, Function.comp_apply,
    blank] at mem
  obtain ⟨_, _, rfl⟩ := mem
  decide

end Area

-- What they do to the count

variable {ctx : Context} {start stop : Value} {first last : Int} {a : Area Value}
  {given : Option Value}

namespace DateFunction

theorem date_blank (system : DateSystem) (here : Position) (year : Int)
    : Value.blank.date system here year = .ok 0 := by
  rw [Value.date, Value.resolve_of_isScalar rfl rfl]
  rfl

/-- The dates of an area are those of the cells that are not blank, and 0 if there are blank ones;
whatever is no date is not in a blank cell.
-/
theorem dates_area_cases (short : a.cellCount ≤ Value.maxCells)
    (scalars : ∀ value ∈ a.allValues, value.isScalar) (system : DateSystem) (here : Position)
    (year : Int)
    : (∃ e, Value.dates system here (some (.area a)) year = .error e
        ∧ a.filledValues.mapM (·.date system here year) = .error e)
      ∨ ∃ xs ys, Value.dates system here (some (.area a)) year = .ok xs
        ∧ a.filledValues.mapM (·.date system here year) = .ok ys
        ∧ ∀ x, x ∈ xs ↔ x ∈ ys ∨ x = 0 ∧ a.hasBlank := by
  have blank (value : Value) (isBlank : (!Scalar.isBlank value) = false)
      : value.date system here year = .ok 0 := by
    cases value with
    | blank => exact date_blank system here year
    | _ => cases isBlank
  have cases := mapM_filter_cases blank a.allValues
  simp only [Bool.not_eq_false'] at cases
  rw [(Value.Lists.area short).dates scalars]
  exact cases

/-- Serial number 0 is a weekday in the system of 1904 only. -/
theorem isWeekday_zero {system : DateSystem} : system.isWeekday 0 ↔ system = .from1904 := by
  cases system <;> decide

/-- A day that is off only because a cell is blank has the serial number 0. -/
theorem mem_daysOff_blank {xs ys : List Float} {blank : Prop}
    (members : ∀ x, x ∈ xs ↔ x ∈ ys ∨ x = 0 ∧ blank) (day : Int)
    : day ∈ daysOff xs ↔ day ∈ daysOff ys ∨ day = 0 ∧ blank := by
  have zero : holiday 0 = 0 := by decide
  simp only [daysOff, List.mem_toFinset, List.mem_map, members]
  constructor
  · rintro ⟨x, listed | ⟨rfl, blank⟩, rfl⟩
    · exact .inl ⟨x, listed, rfl⟩
    · exact .inr ⟨zero, blank⟩
  · rintro (⟨x, listed, rfl⟩ | ⟨rfl, blank⟩)
    · exact ⟨x, .inl listed, rfl⟩
    · exact ⟨0, .inr ⟨rfl, blank⟩, zero⟩

end DateFunction

namespace Context.Spans

/-- Areas of too many cells are refused. -/
theorem workingDaysOf_of_large (spans : ctx.Spans start stop first last)
    (large : Value.maxCells < a.cellCount)
    : ctx.workingDaysOf start stop (some (.area a)) = .ok (.error .num) := by
  refine spans.workingDaysOf_of_error ?_
  exact if_pos large

/-- Blank cells leave the count as it is where serial number 0 is not one of the weekdays. -/
theorem workingDaysOf_filled (spans : ctx.Spans start stop first last)
    (short : a.cellCount ≤ Value.maxCells) (scalars : ∀ value ∈ a.allValues, value.isScalar)
    (lists : Value.Lists given a.filledValues)
    (harmless : ctx.dates = .from1900 ∨ ¬ a.hasBlank ∨ 0 < min first last)
    : ctx.workingDaysOf start stop (some (.area a)) = ctx.workingDaysOf start stop given := by
  have filled : ∀ value ∈ a.filledValues, value.isScalar :=
    fun value mem => scalars value (List.mem_filter.mp mem).1
  have listed := lists.dates filled ctx.dates ctx.here ctx.year
  rcases dates_area_cases short scalars ctx.dates ctx.here ctx.year with
    ⟨e, all, failed⟩ | ⟨xs, ys, all, found, members⟩
  · rw [spans.workingDaysOf_of_error all, spans.workingDaysOf_of_error (listed.trans failed)]
  · rw [spans.workingDaysOf_eq_number all, spans.workingDaysOf_eq_number (listed.trans found)]
    have sameDays : countBetween ctx.dates xs first last
        = countBetween ctx.dates ys first last := by
      refine congrArg Finset.card (DateSystem.workingDays_congr fun day after _ weekday => ?_)
      rw [mem_daysOff_blank members, or_iff_left_iff_imp]
      rintro ⟨rfl, blank⟩
      rcases harmless with is1900 | noBlank | later
      · rw [isWeekday_zero, is1900] at weekday
        cases weekday
      · exact absurd blank noBlank
      · omega
    rw [sameDays]

/-- A blank cell is a holiday on the day with serial number 0. -/
theorem workingDaysOf_hasBlank (spans : ctx.Spans start stop first last)
    (short : a.cellCount ≤ Value.maxCells) (scalars : ∀ value ∈ a.allValues, value.isScalar)
    (blank : a.hasBlank) (lists : Value.Lists given (whole 0 :: a.filledValues))
    : ctx.workingDaysOf start stop (some (.area a)) = ctx.workingDaysOf start stop given := by
  have filled : ∀ value ∈ whole 0 :: a.filledValues, value.isScalar :=
    List.forall_mem_cons.mpr ⟨rfl, fun value mem => scalars value (List.mem_filter.mp mem).1⟩
  have listed := lists.dates filled ctx.dates ctx.here ctx.year
  rw [List.mapM_cons, date_whole] at listed
  rcases dates_area_cases short scalars ctx.dates ctx.here ctx.year with
    ⟨e, all, failed⟩ | ⟨xs, ys, all, found, members⟩
  · rw [failed] at listed
    rw [spans.workingDaysOf_of_error all, spans.workingDaysOf_of_error listed]
  · rw [found] at listed
    rw [spans.workingDaysOf_eq_number all, spans.workingDaysOf_eq_number listed]
    have zero : Float.ofInt 0 = 0 := by decide
    have members' (x : Float) : x ∈ Float.ofInt 0 :: ys ↔ x ∈ ys ∨ x = 0 ∧ a.hasBlank := by
      rw [zero, List.mem_cons, and_iff_left blank, or_comm]
    have sameDays : daysOff xs = daysOff (Float.ofInt 0 :: ys) := by
      ext day
      rw [mem_daysOff_blank members, mem_daysOff_blank members']
    rw [countBetween, sameDays, ← countBetween]

end Context.Spans

/-- Blank cells among holidays are as good as left out, unless serial number 0 is a weekday that is
counted: that is so in the system of 1904 if the dates span it, and there a blank cell is a
holiday on that day. Areas of too many cells are refused.
-/
theorem Context.blank_holidays (ctx : Context) (start stop : Value) (first last : Int)
    (spans : ctx.Spans start stop first last) (a : Area Value)
    (scalars : ∀ value ∈ a.allValues, value.isScalar)
    : (∀ given, a.cellCount ≤ Value.maxCells → Value.Lists given a.filledValues →
        ctx.dates = .from1900 ∨ ¬ a.hasBlank ∨ 0 < min first last →
        ctx.workingDaysOf start stop (some (.area a)) = ctx.workingDaysOf start stop given)
      ∧ (∀ given, a.cellCount ≤ Value.maxCells → a.hasBlank →
        Value.Lists given (whole 0 :: a.filledValues) →
        ctx.workingDaysOf start stop (some (.area a)) = ctx.workingDaysOf start stop given)
      ∧ (Value.maxCells < a.cellCount →
        ctx.workingDaysOf start stop (some (.area a)) = .ok (.error .num)) := by
  refine ⟨?filled, ?hasBlank, ?large⟩
  case filled =>
    intro given short lists harmless
    exact spans.workingDaysOf_filled short scalars lists harmless
  case hasBlank =>
    intro given short blank lists
    exact spans.workingDaysOf_hasBlank short scalars blank lists
  case large =>
    intro large
    exact spans.workingDaysOf_of_large large

/-- A holiday next to a blank cell, in a week of the system of 1900 and from serial number 0 on in
the system of 1904.
-/
theorem Context.blank_holidays_week
    : let ctx : Context := {}
      let ctx1904 : Context := { book := some { Workbook.new with dates := .from1904 } }
      let a : Area Value := ⟨⟨0, 0⟩, 2, 1, 0, 0, 1, 1, #[whole 4]⟩
      ctx.workingDaysOf (whole 0) (whole 6) (some (.area a))
          = ctx.workingDaysOf (whole 0) (whole 6) (some (whole 4))
        ∧ ctx1904.workingDaysOf (whole 0) (whole 6) (some (.area a))
          = ctx1904.workingDaysOf (whole 0) (whole 6)
            (some (.union [.single ⟨0, 0⟩ (whole 0), .single ⟨0, 0⟩ (whole 4)])) := by
  intro ctx ctx1904 a
  have values : a.allValues = [whole 4, .blank] := by
    unfold a
    rfl
  have scalars : ∀ value ∈ a.allValues, value.isScalar := by
    intro value mem
    rw [values, List.mem_cons, List.mem_singleton] at mem
    rcases mem with rfl | rfl <;> rfl
  have filledValues : a.filledValues = [whole 4] := by
    rw [Area.filledValues, values]
    rfl
  have single : Value.Lists (some (whole 4)) a.filledValues := by
    rw [filledValues]
    exact .scalar rfl nofun
  have both : Value.Lists (some (.union [.single ⟨0, 0⟩ (whole 0), .single ⟨0, 0⟩ (whole 4)]))
      (whole 0 :: a.filledValues) := by
    rw [filledValues]
    exact Value.lists_singles ⟨0, 0⟩ [whole 0, whole 4]
  have short : a.cellCount ≤ Value.maxCells := by decide
  have blank : a.hasBlank := ⟨.blank, by rw [values]; exact .tail _ (.head _), rfl⟩
  obtain ⟨filled, _⟩ := ctx.blank_holidays (whole 0) (whole 6) 0 6
    (spans_whole (by decide) (by decide)) a scalars
  obtain ⟨_, counted, _⟩ := ctx1904.blank_holidays (whole 0) (whole 6) 0 6
    (spans_whole (by decide) (by decide)) a scalars
  exact ⟨filled _ short single (.inl rfl), counted _ short blank both⟩

/-- In the system of 1904 a blank cell takes away the one working day from serial number 0 to 0,
and an area of more than 2^20 cells is refused even if all of them are blank.
-/
theorem Context.blank_holidays_change_count
    : let ctx : Context := {}
      let ctx1904 : Context := { book := some { Workbook.new with dates := .from1904 } }
      let a : Area Value := ⟨⟨0, 0⟩, 2, 1, 0, 0, 0, 0, #[]⟩
      let large : Area Value := ⟨⟨0, 0⟩, 0x100000, 2, 0, 0, 0, 0, #[]⟩
      a.filledValues = [] ∧ large.filledValues = []
        ∧ ctx1904.workingDaysOf (whole 0) (whole 0) none = .ok (whole 1)
        ∧ ctx1904.workingDaysOf (whole 0) (whole 0) (some (.area a)) = .ok (whole 0)
        ∧ whole 0 ≠ whole 1
        ∧ ctx.workingDaysOf (whole 2) (whole 8) none = .ok (whole 5)
        ∧ ctx.workingDaysOf (whole 2) (whole 8) (some (.area large)) = .ok (.error .num) := by
  intro ctx ctx1904 a large
  have values : a.allValues = [.blank, .blank] := rfl
  have scalars : ∀ value ∈ a.allValues, value.isScalar := by
    intro value mem
    rw [values, List.mem_cons, List.mem_singleton] at mem
    rcases mem with rfl | rfl <;> rfl
  have spans : ctx1904.Spans (whole 0) (whole 0) 0 0 := spans_whole (by decide) (by decide)
  have spansWeek : ctx.Spans (whole 2) (whole 8) 2 8 := spans_whole (by decide) (by decide)
  have serial : ctx1904.dates.isSerial 0 := by decide
  have blank : a.hasBlank := ⟨.blank, by rw [values]; exact .head _, rfl⟩
  have zero : Value.Lists (some (whole 0)) ([0].map whole) := .scalar rfl nofun
  refine ⟨Area.filledValues_of_stored_nothing rfl, Area.filledValues_of_stored_nothing rfl,
    ?none, ?blank, ?different, ?week, spansWeek.workingDaysOf_of_large (by decide)⟩
  case none =>
    rw [ctx1904.workingDaysOf_forward serial serial le_rfl rfl, DateSystem.workingDays,
      Finset.Icc_self, Finset.filter_singleton, if_pos ⟨by decide, List.not_mem_nil⟩]
    rfl
  case blank =>
    have off : 0 ∈ daysOff ([0].map Float.ofInt) :=
      (mem_daysOff_ofInt serial).mpr (List.mem_singleton_self 0)
    rw [spans.workingDaysOf_hasBlank (by decide) scalars blank zero,
      ctx1904.workingDaysOf_forward serial serial le_rfl (dates_whole zero),
      DateSystem.workingDays, Finset.Icc_self, Finset.filter_singleton,
      if_neg (fun both => both.2 off)]
    rfl
  case different =>
    intro equal
    injection equal with equal
    exact absurd ((Number.ofInt_inj (by decide)).mp equal) (by decide)
  case week =>
    rw [ctx.workingDaysOf_forward (by decide) (by decide) (by decide) rfl]
    exact congrArg (fun count : Nat => Except.ok (whole count))
      (DateSystem.card_workingDays_weeks 2 1)

end Spreadsheet
