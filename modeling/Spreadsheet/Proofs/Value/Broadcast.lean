import Spreadsheet.Proofs.Value.Sound
import Spreadsheet.Value.Broadcast

/-! Operations lifted over sound values give sound values: their areas fit to the right of the
current cell, and below it, as long as this lies in the grid.
-/

namespace Spreadsheet

variable {here : Position} {value left right : Value}

/-- The grid of a sound value has cells, and is no wider than what fits. -/
theorem Value.Sound.extent (h : value.Sound) (here : Position)
    : 0 < (value.extent here).height ∧ 0 < (value.extent here).width
      ∧ (value.extent here).width ≤ widestArea := by
  have narrow : 1 ≤ widestArea := by decide
  cases value with
  | area a => exact ⟨h.tall, h.wide, h.narrow⟩
  | _ => exact ⟨Nat.one_pos, Nat.one_pos, narrow⟩

theorem Value.Sound.seenAt {row col : Nat} {w : Value} (h : value.Sound)
    (seen : value.seenAt here row col = .ok w)
    : w.IsOperand := by
  unfold Value.seenAt at seen
  dsimp only at seen
  split at seen
  · cases seen
  · exact h.resolve seen

namespace Broadcast

/-- Computed cells make a sound value if each of them is a scalar. -/
theorem exists_collect {height width : Nat} {cell : Nat → Nat → Except OperationError Value}
    (inGrid : here.InGrid) (tall : 0 < height) (wide : 0 < width) (narrow : width ≤ widestArea)
    (cells : ∀ row col, ∃ value, cell row col = .ok value ∧ value.IsPlain)
    : ∃ value, collect here height width cell = .ok value ∧ value.Sound := by
  unfold collect
  split
  · obtain ⟨value, computed, plain⟩ := cells 0 0
    exact ⟨value, computed, plain.sound⟩
  · split
    · exact ⟨.error .num, rfl, trivial⟩
    · next few =>
      have rowOk (row : Nat) : ∃ values, (List.range width).mapM (fun col => cell row col)
          = .ok values ∧ values.length = width ∧ ∀ value ∈ values, value.IsPlain := by
        obtain ⟨values, computed, length, plain⟩ :=
          mapM_eq_ok_of_forall (List.range width) fun col _ => cells row col
        exact ⟨values, computed, by simpa using length, plain⟩
      obtain ⟨rows, computed, length, each⟩ := mapM_eq_ok_of_forall (List.range height)
        fun row _ => rowOk row
      rw [List.length_range] at length
      have fewRows : rows.length < 0x80000000 := by
        have := Nat.le_mul_of_pos_right height wide
        simp only [Value.maxCells] at few
        omega
      obtain ⟨area, built, sound⟩ := Area.exists_ofRows inGrid
        (List.ne_nil_of_length_pos (length ▸ tall)) fewRows wide narrow
        (fun row mem => (each row mem).1) fun row mem => (each row mem).2
      refine ⟨.area area, ?_, sound⟩
      rw [except_bind_eq_ok]
      exact ⟨rows, computed, by rw [built]; rfl⟩

theorem exists_lift₂ {f : Value → Value → Except OperationError Value} (inGrid : here.InGrid)
    (hl : left.Sound) (hr : right.Sound)
    (operation : ∀ x y, x.IsOperand → y.IsOperand → ∃ value, f x y = .ok value ∧ value.IsPlain)
    : ∃ value, lift₂ here left right f = .ok value ∧ value.Sound := by
  obtain ⟨tall, wide, narrow⟩ := hl.extent here
  obtain ⟨_, _, narrow'⟩ := hr.extent here
  refine exists_collect inGrid (Nat.lt_of_lt_of_le tall (Nat.le_max_left _ _))
    (Nat.lt_of_lt_of_le wide (Nat.le_max_left _ _)) (Nat.max_le.mpr ⟨narrow, narrow'⟩) ?_
  intro row col
  cases seenLeft : left.seenAt here row col with
  | error e => exact ⟨.error e, rfl, trivial⟩
  | ok x =>
    cases seenRight : right.seenAt here row col with
    | error e => exact ⟨.error e, rfl, trivial⟩
    | ok y => exact operation x y (hl.seenAt seenLeft) (hr.seenAt seenRight)

theorem exists_lift₁ {f : Value → Except OperationError Value} (inGrid : here.InGrid)
    (h : value.Sound) (operation : ∀ x, x.IsPlain → ∃ value, f x = .ok value ∧ value.IsPlain)
    : ∃ result, lift₁ here value f = .ok result ∧ result.Sound := by
  obtain ⟨tall, wide, narrow⟩ := h.extent here
  refine exists_collect inGrid tall wide narrow ?_
  intro row col
  refine operation _ (Value.isPlain_ofExcept ?_)
  intro seen found
  exact (h.seenAt found).1

end Broadcast

end Spreadsheet
