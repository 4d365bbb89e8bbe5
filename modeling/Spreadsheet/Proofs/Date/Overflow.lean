import Spreadsheet.Proofs.Date.Parts
import Spreadsheet.Proofs.Outcome

/-! Serial numbers in machine words. The computation is written out with the words that its steps
are carried out in, where a result that is too large for its word stops everything; none ever is.
-/

namespace Spreadsheet

namespace Word

/-- The result of a step is too large for its word. -/
structure Overflow where
  result : Int
  deriving DecidableEq

/-- The integer has a word of so many bits, one of which is the sign. -/
def Fits (bits : Nat) (n : Int) : Prop :=
  -2 ^ (bits - 1) ≤ n ∧ n < 2 ^ (bits - 1)

instance (bits : Nat) (n : Int) : Decidable (Fits bits n) :=
  inferInstanceAs (Decidable (_ ∧ _))

/-- The result of one step. -/
def step (bits : Nat) (n : Int) : Except Overflow Int :=
  if Fits bits n then .ok n else .error ⟨n⟩

/-- The sum of all terms, one after the other. -/
def sum (terms : List Int) : Except Overflow Int :=
  terms.foldlM (fun total term => step 64 (total + term)) 0

variable {n : Int}

theorem fits_32 : Fits 32 n ↔ -0x80000000 ≤ n ∧ n ≤ 0x7fffffff := by
  unfold Fits
  norm_num
  omega

theorem fits_64 : Fits 64 n ↔ -0x8000000000000000 ≤ n ∧ n ≤ 0x7fffffffffffffff := by
  unfold Fits
  norm_num
  omega

theorem step_32 (low : -0x80000000 ≤ n) (high : n ≤ 0x7fffffff) : step 32 n = .ok n :=
  if_pos (fits_32.mpr ⟨low, high⟩)

theorem step_64 (low : -0x8000000000000000 ≤ n) (high : n ≤ 0x7fffffffffffffff)
    : step 64 n = .ok n :=
  if_pos (fits_64.mpr ⟨low, high⟩)

/-- Sums of terms between zero and `bound`, of which there are not too many: no sum on the way is
above the last, by induction on the terms.
-/
theorem foldlM_step (bound : Nat) {terms : List Int} {total : Int}
    (bounded : ∀ term ∈ terms, 0 ≤ term ∧ term ≤ bound) (nonneg : 0 ≤ total)
    (few : total + terms.length * bound ≤ 0x7fffffffffffffff)
    : terms.foldlM (fun total term => step 64 (total + term)) total
      = .ok (total + terms.sum) := by
  induction terms generalizing total with
  | nil => exact congrArg Except.ok (Int.add_zero total).symm
  | cons term terms ih =>
    obtain ⟨⟨low, high⟩, rest⟩ := List.forall_mem_cons.mp bounded
    rw [List.length_cons, Int.natCast_succ, Int.add_mul, Int.one_mul] at few
    have others : 0 ≤ (terms.length : Int) * bound := by positivity
    rw [List.foldlM_cons, step_64 (by omega) (by omega), List.sum_cons, ← Int.add_assoc]
    exact ih rest (by omega) (by omega)

theorem sum_eq {terms : List Int} (bounded : ∀ term ∈ terms, 0 ≤ term ∧ term ≤ 366)
    (few : terms.length ≤ 0x7fffffff)
    : sum terms = .ok terms.sum := by
  rw [sum, foldlM_step 366 bounded (Int.le_refl 0) (by omega), Int.zero_add]

end Word

namespace DateSystem

open Calendar (monthIndex firstDay dayNumber yearStart)
open Word (Overflow step Fits)

-- The computation in its words

/-- The length of a year in the system of 1900. -/
def yearLength (year : Int) : Int :=
  if year = 1900 ∨ Calendar.isLeap year then 366 else 365

/-- The lengths of the years from 1900 on, before the given one. -/
def yearsBefore (year : Int) : List Int :=
  (List.range (year - 1900).toNat).map fun (years : Nat) => yearLength (1900 + years)

/-- The lengths of the months of a year before the given one, in the system of 1900. -/
def monthsBefore (year month : Int) : List Int :=
  (List.range (month - 1).toNat).map fun (months : Nat) => from1900.daysIn year (1 + months)

/-- The serial number that a month begins with in the system of 1900: all years and months from
1900 on are added up, and days of the calendar are counted before.
-/
def monthStartInWords (year month : Int) : Except Overflow (Option Int) := do
  if year < 0 || 10000 < year then return none
  if 1900 ≤ year then
    let years ← Word.sum (yearsBefore year)
    let months ← Word.sum (monthsBefore year month)
    let days ← step 64 (years + months)
    let start ← step 64 (1 + days)
    return some start
  let days ← step 64 (dayNumber ⟨year, month, 1⟩ - dayNumber from1900.origin)
  return some days

/-- The most days that a duration has: its milliseconds are kept in 64 bits. -/
def durationDays : Int :=
  0x7fffffffffffffff / 86400000

/-- The date that lies a number of days after another, if it is a date at all. -/
def dateAfter? (d : CalendarDate) (days : Int) : Option CalendarDate :=
  let date := Calendar.ofDayNumber (dayNumber d + days)
  if -durationDays ≤ days ∧ days ≤ durationDays ∧ Calendar.hasYear date.year then some date
  else none

/-- The serial number of a day of a month. -/
def serialInWords (system : DateSystem) (year month day : Int)
    : Except Overflow (Option Int) := do
  match system with
  | from1900 =>
    match ← monthStartInWords year month with
    | none => return none
    | some start =>
      let next ← step 64 (start + day)
      let serial ← step 64 (next - 1)
      return some serial
  | from1904 =>
    if !Calendar.hasYear year then return none
    let days ← step 64 (day - 1)
    match dateAfter? ⟨year, month, 1⟩ days with
    | none => return none
    | some date =>
      let serial ← step 64 (dayNumber date - dayNumber from1904.origin)
      return some serial

/-- The year that is meant, which may be counted from 1900. -/
def fullYearInWords (year : Int) : Except Overflow Int :=
  if 0 ≤ year ∧ year < 1900 then step 32 (year + 1900) else .ok year

/-- The serial number of a year, month and day of any size. -/
def partsInWords (system : DateSystem) (year month day : Int)
    : Except Overflow (Option Int) := do
  let year ← fullYearInWords year
  if year < 0 || 9999 < year then return none
  let months ← step 64 (year * 12)
  let before ← step 64 (month - 1)
  let total ← step 64 (months + before)
  let year ← step 32 (total / 12)
  let month ← step 32 (total % 12 + 1)
  let serial ← system.serialInWords year month day
  return serial.filter system.isSerial

-- Years and months added up

variable {system : DateSystem} {year month day : Int}

theorem daysIn_bounds (year month : Int)
    : 0 ≤ system.daysIn year month ∧ system.daysIn year month ≤ 366 := by
  have low := Calendar.le_daysInMonth year month
  have high := Calendar.daysInMonth_le year month
  unfold daysIn
  split <;> omega

theorem yearLength_bounds (year : Int) : 0 ≤ yearLength year ∧ yearLength year ≤ 366 := by
  unfold yearLength
  split <;> decide

/-- A year begins when the year before it is over. -/
theorem monthStart_next_year (late : 1900 ≤ year)
    : from1900.monthStart (monthIndex (year + 1) 1)
      = from1900.monthStart (monthIndex year 1) + yearLength year := by
  by_cases leapYear : year = 1900
  · subst leapYear
    decide
  · have first (year : Int) : firstDay (monthIndex year 1) = yearStart (year - 1) + 306 := by
      rw [Calendar.firstDay_monthIndex (by decide) (by decide),
        Calendar.dayNumber_of_le_two (by decide) (by decide)]
      omega
    have length := Calendar.yearStart_sub_one year
    rw [monthStart, monthStart, extraDay_eq, extraDay_eq, first, first, Int.add_sub_cancel]
    unfold yearLength monthIndex
    simp only [leapYear, false_or, true_and]
    rw [if_pos (by omega), if_pos (by omega)]
    omega

theorem sum_yearsBefore (years : Nat)
    : (yearsBefore (1900 + years)).sum
      = from1900.monthStart (monthIndex (1900 + years) 1) - 1 := by
  have count : (1900 + (years : Int) - 1900).toNat = years := by omega
  rw [yearsBefore, count]
  induction years with
  | zero => decide
  | succ years ih =>
    rw [List.range_succ, List.map_append, List.sum_append, ih (by omega), Int.natCast_succ,
      ← Int.add_assoc, monthStart_next_year (by omega)]
    simp only [List.map_cons, List.map_nil, List.sum_cons, List.sum_nil]
    omega

theorem sum_monthsBefore (months : Nat) (short : months < 12)
    : (monthsBefore year (1 + months)).sum
      = from1900.monthStart (monthIndex year (1 + months))
        - from1900.monthStart (monthIndex year 1) := by
  have count : (1 + (months : Int) - 1).toNat = months := by omega
  rw [monthsBefore, count]
  induction months with
  | zero => exact (Int.sub_self _).symm
  | succ months ih =>
    rw [List.range_succ, List.map_append, List.sum_append, ih (by omega) (by omega),
      Int.natCast_succ, ← Int.add_assoc, Calendar.monthIndex_succ, monthStart_succ,
      monthLength_eq, Calendar.monthIndex_div (by omega) (by omega),
      Calendar.monthIndex_mod (by omega) (by omega)]
    simp only [List.map_cons, List.map_nil, List.sum_cons, List.sum_nil]
    omega

-- No step is too large for its word

theorem sum_yearsBefore_eq (late : 1900 ≤ year) (last : year ≤ 10000)
    : Word.sum (yearsBefore year) = .ok (from1900.monthStart (monthIndex year 1) - 1) := by
  obtain ⟨years, rfl⟩ := Int.le.dest late
  rw [Word.sum_eq, sum_yearsBefore]
  · rw [yearsBefore, List.forall_mem_map]
    exact fun years _ => yearLength_bounds _
  · rw [yearsBefore, List.length_map, List.length_range]
    omega

theorem sum_monthsBefore_eq (january : 1 ≤ month) (december : month ≤ 12)
    : Word.sum (monthsBefore year month)
      = .ok (from1900.monthStart (monthIndex year month)
          - from1900.monthStart (monthIndex year 1)) := by
  obtain ⟨months, rfl⟩ := Int.le.dest january
  rw [Word.sum_eq, sum_monthsBefore months (by omega)]
  · rw [monthsBefore, List.forall_mem_map]
    exact fun months _ => daysIn_bounds _ _
  · rw [monthsBefore, List.length_map, List.length_range]
    omega

section

variable (january : 1 ≤ month) (december : month ≤ 12)

include january december

/-- The months of the years that are counted begin within four million days. -/
theorem monthStart_bounds (first : 0 ≤ year) (last : year ≤ 10000)
    : -4000000 ≤ from1900.monthStart (monthIndex year month)
      ∧ from1900.monthStart (monthIndex year month) ≤ 4000000 := by
  have early : -4000000 ≤ from1900.monthStart (monthIndex 0 1) := by decide
  have late : from1900.monthStart (monthIndex 10000 12) ≤ 4000000 := by decide
  have early' : from1900.monthStart (monthIndex 0 1)
      ≤ from1900.monthStart (monthIndex year month) :=
    monthStart_mono (by unfold monthIndex; omega)
  have late' : from1900.monthStart (monthIndex year month)
      ≤ from1900.monthStart (monthIndex 10000 12) :=
    monthStart_mono (by unfold monthIndex; omega)
  omega

/-- Before 1900 the days of the calendar are counted. -/
theorem monthStart_of_lt (early : year < 1900)
    : from1900.monthStart (monthIndex year month)
      = dayNumber ⟨year, month, 1⟩ - dayNumber from1900.origin := by
  rw [monthStart, extraDay_eq, Calendar.firstDay_monthIndex january december, if_neg, Int.add_zero]
  unfold monthIndex
  omega

theorem serialOf?_monthStart
    : system.serialOf? year month day
      = if system.hasYear year then some (system.monthStart (monthIndex year month) + day - 1)
        else none := by
  rw [serialOf?, monthStart, Calendar.firstDay_monthIndex january december,
    Calendar.monthIndex_div january december, Calendar.monthIndex_mod january december]

theorem monthStartInWords_eq
    : monthStartInWords year month
      = .ok (if from1900.hasYear year then some (from1900.monthStart (monthIndex year month))
          else none) := by
  unfold monthStartInWords
  by_cases counted : 0 ≤ year ∧ year ≤ 10000
  · have bounds := monthStart_bounds january december counted.1 counted.2
    have hasYear : from1900.hasYear year := by simpa [DateSystem.hasYear] using counted
    have inside : ¬(year < 0 || 10000 < year) = true := by simp; omega
    rw [if_pos hasYear, if_neg inside]
    by_cases late : 1900 ≤ year
    · have bounds' : -4000000 ≤ from1900.monthStart (monthIndex year 1)
          ∧ from1900.monthStart (monthIndex year 1) ≤ 4000000 :=
        monthStart_bounds (by decide) (by decide) counted.1 counted.2
      rw [if_pos late]
      refine except_bind_eq_ok.mpr ⟨_, sum_yearsBefore_eq late counted.2, ?_⟩
      refine except_bind_eq_ok.mpr ⟨_, sum_monthsBefore_eq january december, ?_⟩
      refine except_bind_eq_ok.mpr ⟨_, Word.step_64 (by omega) (by omega), ?_⟩
      refine except_bind_eq_ok.mpr ⟨_, Word.step_64 (by omega) (by omega), ?_⟩
      exact congrArg (fun start => Except.ok (some start)) (by omega)
    · rw [monthStart_of_lt january december (Int.not_le.mp late)] at bounds ⊢
      rw [if_neg late]
      exact except_bind_eq_ok.mpr ⟨_, Word.step_64 (by omega) (by omega), rfl⟩
  · have outside : (year < 0 || 10000 < year) = true := by simp; omega
    have noYear : ¬from1900.hasYear year := by simpa [DateSystem.hasYear] using counted
    rw [if_pos outside, if_neg noYear]
    rfl

/-- Days are counted in the system of 1900 without overflow. -/
theorem serialInWords_from1900 (fits : Fits 32 day)
    : from1900.serialInWords year month day = .ok (from1900.serialOf? year month day) := by
  rw [Word.fits_32] at fits
  rw [serialOf?_monthStart january december]
  refine except_bind_eq_ok.mpr ⟨_, monthStartInWords_eq january december, ?_⟩
  by_cases counted : from1900.hasYear year
  · have years : 0 ≤ year ∧ year ≤ 10000 := by simpa [DateSystem.hasYear] using counted
    have bounds := monthStart_bounds january december years.1 years.2
    rw [if_pos counted, if_pos counted]
    refine except_bind_eq_ok.mpr ⟨_, Word.step_64 (by omega) (by omega), ?_⟩
    exact except_bind_eq_ok.mpr ⟨_, Word.step_64 (by omega) (by omega), rfl⟩
  · rw [if_neg counted, if_neg counted]
    rfl

theorem monthStart_from1904
    : from1904.monthStart (monthIndex year month)
      = dayNumber ⟨year, month, 1⟩ - dayNumber from1904.origin := by
  rw [monthStart, Calendar.firstDay_monthIndex january december]
  exact Int.add_zero _

/-- Days are counted in the system of 1904 without overflow, from one date to another. -/
theorem serialInWords_from1904 (exist : Calendar.hasYear year) (fits : Fits 32 day)
    : from1904.serialInWords year month day
      = .ok (if Calendar.hasYear
            (Calendar.ofDayNumber (dayNumber ⟨year, month, 1⟩ + (day - 1))).year then
          some (from1904.monthStart (monthIndex year month) + day - 1)
        else none) := by
  rw [Word.fits_32] at fits
  have bounds : -100000000 ≤ dayNumber ⟨year, month, 1⟩
      ∧ dayNumber ⟨year, month, 1⟩ ≤ 100000000 := by
    simp only [Calendar.hasYear, Bool.and_eq_true, decide_eq_true_eq] at exist
    simp only [dayNumber]
    split <;> omega
  have origin : dayNumber from1904.origin = 695361 := by decide
  have reach : -durationDays ≤ day - 1 ∧ day - 1 ≤ durationDays := by
    unfold durationDays
    omega
  have number := (Calendar.ofDayNumber_spec (dayNumber ⟨year, month, 1⟩ + (day - 1))).2
  have start : from1904.monthStart (monthIndex year month)
      = dayNumber ⟨year, month, 1⟩ - dayNumber from1904.origin :=
    monthStart_from1904 january december
  have noEnd : ¬(!Calendar.hasYear year) = true := by simp [exist]
  unfold serialInWords
  dsimp only
  rw [if_neg noEnd]
  refine except_bind_eq_ok.mpr ⟨_, Word.step_64 (by omega) (by omega), ?_⟩
  by_cases after : Calendar.hasYear
      (Calendar.ofDayNumber (dayNumber ⟨year, month, 1⟩ + (day - 1))).year
  · simp only [dateAfter?, reach.1, reach.2, after, and_self, if_true]
    refine except_bind_eq_ok.mpr ⟨_, Word.step_64 (by omega) (by omega), ?_⟩
    exact congrArg (fun serial => Except.ok (some serial)) (by omega)
  · have noDate : dateAfter? ⟨year, month, 1⟩ (day - 1) = none := if_neg fun date => after date.2.2
    rw [noDate, if_neg after]
    rfl

end

/-- The day of a serial number exists. -/
theorem hasYear_of_isSerial {n : Int}
    (isSerial : from1904.isSerial (n - dayNumber from1904.origin))
    : Calendar.hasYear (Calendar.ofDayNumber n).year := by
  have counts := (toDate_spec isSerial).1
  have first : 1904 ≤ (from1904.toDate (n - dayNumber from1904.origin)).year := counts.firstYear
  have last := counts.lastYear
  rw [toDate, add_sub_cancel] at first last
  simp only [Calendar.hasYear, Bool.and_eq_true, decide_eq_true_eq]
  omega

/-- In both systems the serial numbers that are computed are those of the days. -/
theorem serialInWords_eq (system : DateSystem) (year : Int) (january : 1 ≤ month)
    (december : month ≤ 12) (fits : Fits 32 day)
    : ∃ serial?, system.serialInWords year month day = .ok serial?
      ∧ serial?.filter system.isSerial
        = (system.serialOf? year month day).filter system.isSerial := by
  cases system with
  | from1900 => exact ⟨_, serialInWords_from1900 january december fits, rfl⟩
  | from1904 =>
    rw [serialOf?_monthStart january december]
    by_cases exist : Calendar.hasYear year
    · refine ⟨_, serialInWords_from1904 january december exist fits, ?_⟩
      rw [if_pos (show from1904.hasYear year from exist)]
      split
      · rfl
      · next noEnd =>
        have noSerial : ¬from1904.isSerial
            (from1904.monthStart (monthIndex year month) + day - 1) := by
          intro isSerial
          refine noEnd (hasYear_of_isSerial ?_)
          have same : from1904.monthStart (monthIndex year month) + day - 1
              = dayNumber ⟨year, month, 1⟩ + (day - 1) - dayNumber from1904.origin := by
            rw [monthStart_from1904 january december]
            omega
          rwa [same] at isSerial
        rw [Option.filter_some, if_neg noSerial]
        rfl
    · refine ⟨none, ?_, ?_⟩
      · unfold serialInWords
        exact if_pos (by simp [exist])
      · rw [if_neg (show ¬from1904.hasYear year from exist)]

theorem fullYearInWords_eq (year : Int) : fullYearInWords year = .ok (fullYear year) := by
  unfold fullYearInWords fullYear
  split
  · exact Word.step_32 (by omega) (by omega)
  · rfl

/-- The serial number of a year, month and day of 32 bits is computed without any overflow. -/
theorem partsInWords_eq (fitsMonth : Fits 32 month) (fitsDay : Fits 32 day)
    : system.partsInWords year month day = .ok (system.ofParts? year month day) := by
  have bounds := Word.fits_32.mp fitsMonth
  rw [ofParts?_eq_filter]
  unfold partsInWords
  refine except_bind_eq_ok.mpr ⟨_, fullYearInWords_eq year, ?_⟩
  by_cases inside : 0 ≤ fullYear year ∧ fullYear year ≤ 9999
  · have index : fullYear year * 12 + (month - 1) = monthOf year month := by
      unfold monthOf monthIndex
      omega
    have inYear : 1 ≤ monthOf year month % 12 + 1 ∧ monthOf year month % 12 + 1 ≤ 12 := by omega
    obtain ⟨serial?, computed, same⟩ :=
      serialInWords_eq system (monthOf year month / 12) inYear.1 inYear.2 fitsDay
    have within : ¬(fullYear year < 0 || 9999 < fullYear year) = true := by simp; omega
    rw [if_neg within, if_pos inside]
    refine except_bind_eq_ok.mpr ⟨_, Word.step_64 (by omega) (by omega), ?_⟩
    refine except_bind_eq_ok.mpr ⟨_, Word.step_64 (by omega) (by omega), ?_⟩
    refine except_bind_eq_ok.mpr ⟨_, Word.step_64 (by omega) (by omega), ?_⟩
    refine except_bind_eq_ok.mpr ⟨_, Word.step_32 (by omega) (by omega), ?_⟩
    refine except_bind_eq_ok.mpr ⟨_, Word.step_32 (by omega) (by omega), ?_⟩
    rw [index]
    refine except_bind_eq_ok.mpr ⟨_, computed, ?_⟩
    exact congrArg Except.ok same
  · have outside : (fullYear year < 0 || 9999 < fullYear year) = true := by simp; omega
    rw [if_pos outside, if_neg inside]
    rfl

end DateSystem

end Spreadsheet
