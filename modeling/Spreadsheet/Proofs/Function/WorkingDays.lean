import Spreadsheet.Proofs.Date.WorkingDays
import Spreadsheet.Proofs.Function.Date
import Spreadsheet.Proofs.Function.DateList
import Spreadsheet.Proofs.Number.Floor

/-! `NETWORKDAYS` as a count of working days: it adds up over spans in a row, changes its sign with
the direction, and holidays take away the weekdays that they fall on.
-/

namespace Spreadsheet

open Value (whole)

variable {ctx : Context} {start stop : Value} {first last day : Int} {holidays : Option Value}
  {xs : List Float} {e : CellError}

-- What is counted

/-- `NETWORKDAYS` from one date to another, with holidays or without. -/
def Context.workingDaysOf (ctx : Context) (start stop : Value) (holidays : Option Value)
    : Outcome :=
  Function.workingDays.apply ctx (start :: stop :: holidays.toList)

/-- Two arguments are dates that have whole serial numbers. -/
structure Context.Spans (ctx : Context) (start stop : Value) (first last : Int) : Prop where
  start : start.date ctx.dates ctx.here ctx.year >>= DateFunction.wholeSerial? ctx.dates = .ok first
  stop : stop.date ctx.dates ctx.here ctx.year >>= DateFunction.wholeSerial? ctx.dates = .ok last

namespace DateFunction

theorem isSerial_of_wholeSerial? {system : DateSystem} {x : Float}
    (found : wholeSerial? system x = .ok day)
    : system.isSerial day := by
  unfold wholeSerial? at found
  split at found
  · split at found
    · next serial =>
      cases found
      exact serial
    · cases found
  · cases found

theorem spans_whole (hf : ctx.dates.isSerial first) (hl : ctx.dates.isSerial last)
    : ctx.Spans (whole first) (whole last) first last := by
  constructor
  · rw [date_whole]
    exact wholeSerial?_ofInt hf
  · rw [date_whole]
    exact wholeSerial?_ofInt hl

theorem isScalar_of_mem_map_whole {days : List Int} {value : Value}
    (mem : value ∈ days.map whole)
    : value.isScalar := by
  obtain ⟨day, _, rfl⟩ := List.mem_map.mp mem
  rfl

/-- Whole serial numbers are listed as they are. -/
theorem dates_whole {system : DateSystem} {here : Position} {year : Int} {days : List Int}
    (lists : Value.Lists holidays (days.map whole))
    : Value.dates system here holidays year = .ok (days.map Float.ofInt) := by
  rw [lists.dates (fun _ => isScalar_of_mem_map_whole), List.mapM_map]
  exact mapM_eq_ok_map days fun day _ => date_whole system here year

/-- The days that holidays fall on. -/
def daysOff (holidays : List Float) : Finset Int :=
  (holidays.map holiday).toFinset

/-- A holiday falls on the day below it, as far as days are counted. -/
theorem holiday_eq_iff {system : DateSystem} {x : Float} (number : x.isNaN = false)
    (serial : system.isSerial day)
    : holiday x = day ↔ Number.floor? x = some day := by
  have ⟨nonneg, bounded⟩ := DateSystem.bounds_of_isSerial serial
  exact Number.clampToInt_floor_eq_iff number (by omega) (by omega)

theorem mem_daysOff {system : DateSystem} (numbers : ∀ x ∈ xs, x.isNaN = false)
    (serial : system.isSerial day)
    : day ∈ daysOff xs ↔ ∃ x ∈ xs, Number.floor? x = some day := by
  rw [daysOff, List.mem_toFinset, List.mem_map]
  exact exists_congr fun x => and_congr_right fun mem => holiday_eq_iff (numbers x mem) serial

/-- Holidays that are integers fall on themselves. -/
theorem mem_daysOff_ofInt {system : DateSystem} {days : List Int} (serial : system.isSerial day)
    : day ∈ daysOff (days.map Float.ofInt) ↔ day ∈ days := by
  have ⟨nonneg, bounded⟩ := DateSystem.bounds_of_isSerial serial
  have numbers : ∀ x ∈ days.map Float.ofInt, x.isNaN = false := by
    intro x mem
    obtain ⟨n, _, rfl⟩ := List.mem_map.mp mem
    exact Number.not_isNaN_ofInt n
  rw [mem_daysOff numbers serial]
  simp only [List.mem_map, exists_exists_and_eq_and,
    Number.floor?_ofInt_eq_some_iff (by omega : day.natAbs < 2 ^ 53), exists_eq_right]

/-- The count of working days, by induction on the number of days looked at. -/
theorem countWorkingDays_eq {system : DateSystem} {off : Finset Int} {isWorking : Int → Bool}
    (working : ∀ day, isWorking day ↔ system.isWeekday day ∧ day ∉ off) (first : Int) (count : Nat)
    : countWorkingDays isWorking first count
      = (system.workingDays off first (first + count - 1)).card := by
  induction count with
  | zero =>
    rw [DateSystem.workingDays, Finset.Icc_eq_empty (by omega)]
    rfl
  | succ count ih =>
    have next : first + (count + 1 : Nat) - 1 = first + count - 1 + 1 := by omega
    have last : first + count - 1 + 1 = first + count := by omega
    rw [countWorkingDays, Nat.fold_succ, ← countWorkingDays, ih, next,
      DateSystem.card_workingDays_succ (by omega), last, ← if_congr (working _) rfl rfl]
    split <;> rfl

/-- How many working days there are between two days, whichever comes first. -/
noncomputable def countBetween (system : DateSystem) (holidays : List Float) (first last : Int)
    : Nat :=
  (system.workingDays (daysOff holidays) (min first last) (max first last)).card

theorem countBetween_lt {system : DateSystem} (hf : system.isSerial first)
    (hl : system.isSerial last)
    : countBetween system xs first last < 2 ^ 53 := by
  have ⟨_, _⟩ := DateSystem.bounds_of_isSerial hf
  have ⟨_, _⟩ := DateSystem.bounds_of_isSerial hl
  have days : countBetween system xs first last ≤ (max first last + 1 - min first last).toNat :=
    Nat.le_trans (Finset.card_filter_le _ _) (Nat.le_of_eq (Int.card_Icc _ _))
  omega

end DateFunction

theorem Context.workingDaysOf_eq
    : ctx.workingDaysOf start stop holidays
      = .ok (DateFunction.workingDays ctx start stop holidays) := by
  cases holidays <;> rfl

namespace Context.Spans

open DateFunction

theorem isSerial (spans : ctx.Spans start stop first last)
    : ctx.dates.isSerial first ∧ ctx.dates.isSerial last := by
  obtain ⟨_, _, found⟩ := except_bind_eq_ok.mp spans.start
  obtain ⟨_, _, found'⟩ := except_bind_eq_ok.mp spans.stop
  exact ⟨isSerial_of_wholeSerial? found, isSerial_of_wholeSerial? found'⟩

/-- A holiday that is no date is an error. -/
theorem workingDaysOf_of_error (spans : ctx.Spans start stop first last)
    (listed : Value.dates ctx.dates ctx.here holidays ctx.year = .error e)
    : ctx.workingDaysOf start stop holidays = .ok (.error e) := by
  obtain ⟨x, startsAt, found⟩ := except_bind_eq_ok.mp spans.start
  obtain ⟨y, stopsAt, found'⟩ := except_bind_eq_ok.mp spans.stop
  rw [workingDaysOf_eq, workingDays]
  simp only [startsAt, stopsAt, found, found', listed, bind, Except.bind]
  rfl

/-- The working days between two dates, with both of them counted; they are negative if the dates
run backward.
-/
theorem workingDaysOf_eq_number (spans : ctx.Spans start stop first last)
    (listed : Value.dates ctx.dates ctx.here holidays ctx.year = .ok xs)
    : ctx.workingDaysOf start stop holidays
      = .ok (.number (if first ≤ last then Float.ofNat (countBetween ctx.dates xs first last)
          else -Float.ofNat (countBetween ctx.dates xs first last))) := by
  obtain ⟨x, startsAt, found⟩ := except_bind_eq_ok.mp spans.start
  obtain ⟨y, stopsAt, found'⟩ := except_bind_eq_ok.mp spans.stop
  have small : countBetween ctx.dates xs first last < 2 ^ 53 :=
    countBetween_lt spans.isSerial.1 spans.isSerial.2
  have working (day : Int)
      : (ctx.dates.isWeekday day && !(Std.HashSet.ofList (xs.map holiday)).contains day)
        ↔ ctx.dates.isWeekday day ∧ day ∉ daysOff xs := by
    simp [daysOff]
  have whole : min first last + (max first last - min first last + 1).toNat - 1
      = max first last := by omega
  have counted := countWorkingDays_eq working (min first last)
    (max first last - min first last + 1).toNat
  rw [whole] at counted
  rw [workingDaysOf_eq, workingDays]
  simp only [startsAt, stopsAt, found, found', listed, bind, Except.bind, pure, Except.pure,
    counted]
  change Except.ok (Value.ofNumber (.ok ((if first ≤ last then 1 else -1)
    * Float.ofNat (countBetween ctx.dates xs first last)))) = _
  refine congrArg Except.ok ?_
  split
  · rw [Number.one_mul_ofNat small]
    exact if_pos (Number.isFinite_ofNat small)
  · rw [Number.neg_one_mul_ofNat small]
    exact if_pos (Number.isFinite_neg_ofNat small)

end Context.Spans

-- Laws of the count

namespace Context

open DateFunction

variable {middle : Int} {holidays' : Option Value} {xs' : List Float}

/-- From an earlier day to a later one the working days are a whole number. -/
theorem workingDaysOf_forward (serialFirst : ctx.dates.isSerial first)
    (serialLast : ctx.dates.isSerial last) (forward : first ≤ last)
    (listed : Value.dates ctx.dates ctx.here holidays ctx.year = .ok xs)
    : ctx.workingDaysOf (whole first) (whole last) holidays
      = .ok (whole (ctx.dates.workingDays (daysOff xs) first last).card) := by
  rw [(spans_whole serialFirst serialLast).workingDaysOf_eq_number listed, if_pos forward,
    countBetween, min_eq_left forward, max_eq_right forward]
  rfl

/-- The other way round the working days are negative. -/
theorem workingDaysOf_backward (serialFirst : ctx.dates.isSerial first)
    (serialLast : ctx.dates.isSerial last) (different : first ≠ last)
    (listed : Value.dates ctx.dates ctx.here holidays ctx.year = .ok xs)
    : ∃ x, ctx.workingDaysOf (whole first) (whole last) holidays = .ok (.number x)
      ∧ ctx.workingDaysOf (whole last) (whole first) holidays = .ok (.number (-x)) := by
  have sameDays : countBetween ctx.dates xs last first = countBetween ctx.dates xs first last := by
    rw [countBetween, countBetween, min_comm, max_comm]
  refine ⟨_, (spans_whole serialFirst serialLast).workingDaysOf_eq_number listed, ?_⟩
  rw [(spans_whole serialLast serialFirst).workingDaysOf_eq_number listed, sameDays]
  by_cases forward : first ≤ last
  · rw [if_pos forward, if_neg (by omega)]
  · rw [if_neg forward, if_pos (by omega),
      Number.neg_neg_ofNat (countBetween_lt serialFirst serialLast)]

/-- The working days depend on the holidays' dates alone. -/
theorem workingDaysOf_congr (same : Value.dates ctx.dates ctx.here holidays ctx.year
      = Value.dates ctx.dates ctx.here holidays' ctx.year)
    : ctx.workingDaysOf start stop holidays = ctx.workingDaysOf start stop holidays' := by
  simp only [workingDaysOf_eq, workingDays, same]

/-- `NETWORKDAYS` counts working days. Those of two spans in a row add up, and the other way round
they are negative; whole weeks without holidays have five each. Holidays take away as many as
there are different days below them that are weekdays of the span, so only these days matter,
and not how the holidays are spread over areas.
-/
theorem working_days_count (ctx : Context) (holidays : Option Value) (xs : List Float)
    (listed : Value.dates ctx.dates ctx.here holidays ctx.year = .ok xs)
    : (∀ first middle last, ctx.dates.isSerial first → ctx.dates.isSerial last →
        first ≤ middle → middle < last →
        ∃ k k' : Nat, ctx.workingDaysOf (whole first) (whole middle) holidays = .ok (whole k)
          ∧ ctx.workingDaysOf (whole (middle + 1)) (whole last) holidays = .ok (whole k')
          ∧ ctx.workingDaysOf (whole first) (whole last) holidays = .ok (whole (k + k')))
      ∧ (∀ first last, ctx.dates.isSerial first → ctx.dates.isSerial last → first ≠ last →
        ∃ x, ctx.workingDaysOf (whole first) (whole last) holidays = .ok (.number x)
          ∧ ctx.workingDaysOf (whole last) (whole first) holidays = .ok (.number (-x)))
      ∧ (∀ first (weeks : Nat), ctx.dates.isSerial first →
        ctx.dates.isSerial (first + 7 * weeks - 1) → 0 < weeks →
        ctx.workingDaysOf (whole first) (whole (first + 7 * weeks - 1)) none
          = .ok (whole (5 * weeks)))
      ∧ (∀ first last, ctx.dates.isSerial first → ctx.dates.isSerial last → first ≤ last →
        ∃ k : Nat, ctx.workingDaysOf (whole first) (whole last) none = .ok (whole k)
          ∧ ctx.workingDaysOf (whole first) (whole last) holidays
            = .ok (whole (k - ((daysOff xs).filter fun day =>
                (first ≤ day ∧ day ≤ last) ∧ ctx.dates.isWeekday day).card)))
      ∧ (∀ x day, x.isNaN = false → ctx.dates.isSerial day →
        (holiday x = day ↔ Number.floor? x = some day))
      ∧ (∀ first last holidays' xs', ctx.dates.isSerial first → ctx.dates.isSerial last →
        first ≤ last → Value.dates ctx.dates ctx.here holidays' ctx.year = .ok xs' →
        (∀ day, first ≤ day → day ≤ last → ctx.dates.isWeekday day →
          (day ∈ daysOff xs ↔ day ∈ daysOff xs')) →
        ctx.workingDaysOf (whole first) (whole last) holidays
          = ctx.workingDaysOf (whole first) (whole last) holidays')
      ∧ (∀ start stop holidays' values, Value.Lists holidays values →
        Value.Lists holidays' values → (∀ value ∈ values, value.isScalar) →
        ctx.workingDaysOf start stop holidays = ctx.workingDaysOf start stop holidays') := by
  refine ⟨?append, ?backward, ?weeks, ?holidays, ?below, ?same, ?spread⟩
  case append =>
    intro first middle last serialFirst serialLast start stop
    have ⟨firstLow, firstHigh⟩ := DateSystem.isSerial_iff.mp serialFirst
    have ⟨lastLow, lastHigh⟩ := DateSystem.isSerial_iff.mp serialLast
    have serialMiddle : ctx.dates.isSerial middle :=
      DateSystem.isSerial_iff.mpr ⟨by omega, by omega⟩
    have serialNext : ctx.dates.isSerial (middle + 1) :=
      DateSystem.isSerial_iff.mpr ⟨by omega, by omega⟩
    refine ⟨_, _, workingDaysOf_forward serialFirst serialMiddle start listed,
      workingDaysOf_forward serialNext serialLast stop listed, ?_⟩
    rw [workingDaysOf_forward serialFirst serialLast (by omega) listed,
      DateSystem.card_workingDays_append (by omega) (by omega : middle ≤ last), Nat.cast_add]
  case backward =>
    intro first last serialFirst serialLast different
    exact workingDaysOf_backward serialFirst serialLast different listed
  case weeks =>
    intro first weeks serialFirst serialLast some
    rw [workingDaysOf_forward serialFirst serialLast (by omega) rfl, daysOff, List.map_nil,
      List.toFinset_nil, DateSystem.card_workingDays_weeks]
    rfl
  case holidays =>
    intro first last serialFirst serialLast forward
    refine ⟨_, workingDaysOf_forward serialFirst serialLast forward rfl, ?_⟩
    rw [workingDaysOf_forward serialFirst serialLast forward listed]
    have taken : ((ctx.dates.workingDays (daysOff xs) first last).card : Int)
        = (ctx.dates.workingDays ∅ first last).card - ((daysOff xs).filter fun day =>
            (first ≤ day ∧ day ≤ last) ∧ ctx.dates.isWeekday day).card := by
      have := @DateSystem.card_workingDays_off ctx.dates first last (daysOff xs)
      omega
    rw [taken]
    rfl
  case below =>
    intro x day number serial
    exact holiday_eq_iff number serial
  case same =>
    intro first last holidays' xs' serialFirst serialLast forward listed' same
    rw [workingDaysOf_forward serialFirst serialLast forward listed,
      workingDaysOf_forward serialFirst serialLast forward listed',
      DateSystem.workingDays_congr same]
  case spread =>
    intro start stop holidays' values lists lists' scalars
    refine workingDaysOf_congr ?_
    rw [lists.dates scalars, lists'.dates scalars]

/-- A week with a holiday that is listed twice and one on a Sunday. -/
theorem working_days_count_week
    : let ctx : Context := {}
      let days : List Int := [4, 8, 4]
      let holidays : Option Value := some (.union ((days.map whole).map (Area.single ⟨0, 0⟩)))
      let spread : Option Value := some (.union
        [⟨⟨0, 0⟩, 1, 2, 0, 0, 1, 2, #[whole 4, whole 8]⟩, .single ⟨9, 9⟩ (whole 4)])
      let once : Option Value := some (whole 4)
      (∃ k k' : Nat, ctx.workingDaysOf (whole 2) (whole 5) holidays = .ok (whole k)
          ∧ ctx.workingDaysOf (whole 6) (whole 8) holidays = .ok (whole k')
          ∧ ctx.workingDaysOf (whole 2) (whole 8) holidays = .ok (whole (k + k')))
        ∧ (∃ x, ctx.workingDaysOf (whole 2) (whole 8) holidays = .ok (.number x)
          ∧ ctx.workingDaysOf (whole 8) (whole 2) holidays = .ok (.number (-x)))
        ∧ ctx.workingDaysOf (whole 2) (whole 8) none = .ok (whole 5)
        ∧ (∃ k : Nat, ctx.workingDaysOf (whole 2) (whole 8) none = .ok (whole k)
          ∧ ctx.workingDaysOf (whole 2) (whole 8) holidays
            = .ok (whole (k - ((daysOff (days.map Float.ofInt)).filter fun day =>
                (2 ≤ day ∧ day ≤ 8) ∧ ctx.dates.isWeekday day).card)))
        ∧ (holiday (Float.ofInt 4) = 4 ↔ Number.floor? (Float.ofInt 4) = some 4)
        ∧ ctx.workingDaysOf (whole 2) (whole 8) holidays
          = ctx.workingDaysOf (whole 2) (whole 8) once
        ∧ ctx.workingDaysOf (whole 2) (whole 8) holidays
          = ctx.workingDaysOf (whole 2) (whole 8) spread := by
  intro ctx days holidays spread once
  have listed : Value.dates ctx.dates ctx.here holidays ctx.year = .ok (days.map Float.ofInt) :=
    dates_whole (Value.lists_singles _ _)
  have listedOnce : Value.dates ctx.dates ctx.here once ctx.year = .ok ([4].map Float.ofInt) :=
    dates_whole (@Value.Lists.scalar (whole 4) rfl nofun)
  have spreads : Value.Lists spread (days.map whole) := by
    refine Value.Lists.union ?_
    simp only [List.mem_cons, List.not_mem_nil, or_false, forall_eq_or_imp, forall_eq]
    decide
  obtain ⟨append, backward, weeks, taken, below, same, spread'⟩ :=
    ctx.working_days_count holidays _ listed
  refine ⟨append 2 5 8 (by decide) (by decide) (by decide) (by decide),
    backward 2 8 (by decide) (by decide) (by decide), weeks 2 1 (by decide) (by decide) (by decide),
    taken 2 8 (by decide) (by decide) (by decide), below _ 4 (Number.not_isNaN_ofInt 4) (by decide),
    same 2 8 once _ (by decide) (by decide) (by decide) listedOnce ?_,
    spread' _ _ spread _ (Value.lists_singles _ _) spreads fun _ => isScalar_of_mem_map_whole⟩
  intro day start stop weekday
  have serial : ctx.dates.isSerial day :=
    DateSystem.isSerial_iff.mpr ⟨by omega, Int.le_trans stop (by decide)⟩
  rw [mem_daysOff_ofInt serial, mem_daysOff_ofInt serial, List.mem_singleton]
  constructor
  · intro mem
    have cases : day = 4 ∨ day = 8 := by
      simp only [days, List.mem_cons, List.not_mem_nil, or_false] at mem
      omega
    rcases cases with rfl | rfl
    · rfl
    · exact absurd weekday (by decide)
  · rintro rfl
    exact .head _

end Context

end Spreadsheet
