import Spreadsheet.Proofs.Date.Systems

/-! The working days from one day to another: those of two spans in a row add up, a whole week has
five of them, and days off take away as many as are weekdays of the span.
-/

namespace Spreadsheet.DateSystem

/-- The weekdays from one day to another that are not off. -/
noncomputable def workingDays (system : DateSystem) (off : Finset Int) (first last : Int)
    : Finset Int :=
  (Finset.Icc first last).filter fun day => system.isWeekday day ∧ day ∉ off

variable {system : DateSystem} {off off' : Finset Int} {first middle last day : Int}

theorem mem_workingDays
    : day ∈ system.workingDays off first last
      ↔ (first ≤ day ∧ day ≤ last) ∧ system.isWeekday day ∧ day ∉ off := by
  rw [workingDays, Finset.mem_filter, Finset.mem_Icc]

/-- Only days off that are weekdays of the span matter. -/
theorem workingDays_congr
    (same : ∀ day, first ≤ day → day ≤ last → system.isWeekday day → (day ∈ off ↔ day ∈ off'))
    : system.workingDays off first last = system.workingDays off' first last := by
  ext day
  rw [mem_workingDays, mem_workingDays]
  refine and_congr_right fun inside => and_congr_right fun weekday => ?_
  rw [same day inside.1 inside.2 weekday]

/-- Two spans in a row have the working days of both. -/
theorem card_workingDays_append (start : first ≤ middle + 1) (stop : middle ≤ last)
    : (system.workingDays off first last).card
      = (system.workingDays off first middle).card
        + (system.workingDays off (middle + 1) last).card := by
  have union : system.workingDays off first last
      = system.workingDays off first middle ∪ system.workingDays off (middle + 1) last := by
    ext day
    rw [Finset.mem_union, mem_workingDays, mem_workingDays, mem_workingDays, ← or_and_right]
    refine and_congr_left fun _ => ?_
    omega
  rw [union, Finset.card_union_of_disjoint]
  refine Finset.disjoint_left.mpr fun day early late => ?_
  have := (mem_workingDays.mp early).1
  have := (mem_workingDays.mp late).1
  omega

/-- A span of one day more has that day more, if it is a working day. -/
theorem card_workingDays_succ (start : first ≤ last + 1)
    : (system.workingDays off first (last + 1)).card
      = (system.workingDays off first last).card
        + if system.isWeekday (last + 1) ∧ last + 1 ∉ off then 1 else 0 := by
  have added : (system.workingDays off (last + 1) (last + 1)).card
      = if system.isWeekday (last + 1) ∧ last + 1 ∉ off then 1 else 0 := by
    rw [workingDays, Finset.Icc_self, Finset.filter_singleton]
    split <;> rfl
  rw [card_workingDays_append start (by omega), added]

/-- Days off take away those of them that are weekdays of the span. -/
theorem card_workingDays_off (off : Finset Int)
    : (system.workingDays off first last).card
        + (off.filter fun day => (first ≤ day ∧ day ≤ last) ∧ system.isWeekday day).card
      = (system.workingDays ∅ first last).card := by
  have taken : off.filter (fun day => (first ≤ day ∧ day ≤ last) ∧ system.isWeekday day)
      = (system.workingDays ∅ first last).filter (· ∈ off) := by
    ext day
    simp only [Finset.mem_filter, mem_workingDays, Finset.notMem_empty, not_false_iff, and_true]
    exact and_comm
  have left : system.workingDays off first last
      = (system.workingDays ∅ first last).filter (· ∉ off) := by
    ext day
    simp only [Finset.mem_filter, mem_workingDays, Finset.notMem_empty, not_false_iff, and_true,
      and_assoc]
  rw [taken, left, Nat.add_comm, Finset.card_filter_add_card_filter_not]

-- Weeks

/-- The days since the Sunday before serial number 0. -/
def sinceSunday : DateSystem → Int → Int
  | from1900, serial => serial - 1
  | from1904, serial => serial + 5

/-- The weekdays before a day, counted from a Sunday: five in each week that is over, and those of
the week that is not.
-/
def weekdaysBefore (system : DateSystem) (serial : Int) : Int :=
  5 * (system.sinceSunday serial / 7) + max 0 (system.sinceSunday serial % 7 - 1)

theorem weekdaysBefore_succ (serial : Int)
    : system.weekdaysBefore (serial + 1)
      = system.weekdaysBefore serial + if system.isWeekday serial then 1 else 0 := by
  have weekday : system.weekday serial = system.sinceSunday serial % 7 := by
    cases system <;> rfl
  have next : system.sinceSunday (serial + 1) = system.sinceSunday serial + 1 := by
    cases system <;> simp only [sinceSunday] <;> omega
  rw [weekdaysBefore, weekdaysBefore, next, isWeekday, weekday]
  split
  · next working =>
    simp only [Bool.and_eq_true, bne_iff_ne] at working
    omega
  · next free =>
    simp only [Bool.and_eq_true, bne_iff_ne] at free
    omega

theorem weekdaysBefore_add_weeks (serial : Int) (weeks : Nat)
    : system.weekdaysBefore (serial + 7 * weeks) = system.weekdaysBefore serial + 5 * weeks := by
  have later : system.sinceSunday (serial + 7 * weeks) = system.sinceSunday serial + 7 * weeks := by
    cases system <;> simp only [sinceSunday] <;> omega
  rw [weekdaysBefore, weekdaysBefore, later]
  omega

/-- The weekdays of a span, by induction on its last day. -/
theorem card_workingDays_empty (start : first ≤ last + 1)
    : ((system.workingDays ∅ first last).card : Int)
      = system.weekdaysBefore (last + 1) - system.weekdaysBefore first := by
  obtain ⟨before, rfl⟩ : ∃ before, first = before + 1 := ⟨first - 1, by omega⟩
  induction last, (Int.le_of_add_le_add_right start : before ≤ last) using Int.leInduction with
  | base =>
    rw [workingDays, Finset.Icc_eq_empty (by omega)]
    simp
  | succ last start ih =>
    rw [card_workingDays_succ (by omega), weekdaysBefore_succ (last + 1), Nat.cast_add,
      ih (by omega)]
    simp only [Finset.notMem_empty, not_false_iff, and_true]
    split <;> omega

/-- Whole weeks have five weekdays each, whichever day they begin with. -/
theorem card_workingDays_weeks (first : Int) (weeks : Nat)
    : (system.workingDays ∅ first (first + 7 * weeks - 1)).card = 5 * weeks := by
  have count : ((system.workingDays ∅ first (first + 7 * weeks - 1)).card : Int)
      = system.weekdaysBefore (first + 7 * weeks - 1 + 1) - system.weekdaysBefore first :=
    card_workingDays_empty (by omega)
  rw [Int.sub_add_cancel, weekdaysBefore_add_weeks] at count
  omega

-- The two systems

/-- A span has as many working days in one system as in the other. -/
theorem card_workingDays_epochGap
    (same : ∀ day, first ≤ day → day ≤ last → (day ∈ off ↔ day + epochGap ∈ off'))
    : (from1904.workingDays off first last).card
      = (from1900.workingDays off' (first + epochGap) (last + epochGap)).card := by
  refine Finset.card_bij (fun day _ => day + epochGap) ?_ ?_ ?_
  · intro day working
    obtain ⟨⟨start, stop⟩, weekday, notOff⟩ := mem_workingDays.mp working
    refine mem_workingDays.mpr ⟨⟨by omega, by omega⟩, ?_, ?_⟩
    · rwa [isWeekday_epochGap]
    · rwa [← same day start stop]
  · intro day _ day' _ equal
    omega
  · intro later working
    obtain ⟨day, rfl⟩ : ∃ day, later = day + epochGap := ⟨later - epochGap, by omega⟩
    obtain ⟨⟨start, stop⟩, weekday, notOff⟩ := mem_workingDays.mp working
    refine ⟨day, mem_workingDays.mpr ⟨⟨by omega, by omega⟩, ?_, ?_⟩, rfl⟩
    · rwa [isWeekday_epochGap] at weekday
    · rwa [same day (by omega) (by omega)]

end Spreadsheet.DateSystem
