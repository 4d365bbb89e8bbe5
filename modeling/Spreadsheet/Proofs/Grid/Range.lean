import Spreadsheet.Grid.Range

/-! Which cells a range covers, and which cells two ranges share. -/

namespace Spreadsheet.Range

variable {r s t : Range} {p : Position}

theorem contains_iff
    : r.contains p ↔ (r.first.row ≤ p.row ∧ p.row ≤ r.last.row)
      ∧ (r.first.col ≤ p.col ∧ p.col ≤ r.last.col) := by
  simp [contains]

theorem contains_first : r.contains r.first.position :=
  contains_iff.mpr ⟨⟨Nat.le_refl _, r.rows_le⟩, Nat.le_refl _, r.cols_le⟩

theorem contains_last : r.contains r.last.position :=
  contains_iff.mpr ⟨⟨r.rows_le, Nat.le_refl _⟩, r.cols_le, Nat.le_refl _⟩

/-- The cells of a range by how many rows and columns there are. -/
theorem contains_iff_lt
    : r.contains p ↔ (r.first.row ≤ p.row ∧ p.row < r.first.row + r.rowCount)
      ∧ (r.first.col ≤ p.col ∧ p.col < r.first.col + r.colCount) := by
  have rows := r.rows_le
  have cols := r.cols_le
  rw [contains_iff, rowCount, colCount]
  omega

/-- The cells of a range by their offsets from its corner. -/
theorem contains_offset {row col : Nat}
    : r.contains ⟨r.first.row + row, r.first.col + col⟩ ↔ row < r.rowCount ∧ col < r.colCount := by
  rw [contains_iff_lt]
  dsimp only
  omega

theorem rowCount_single (a : Address) : (single a).rowCount = 1 := by
  simp [rowCount, single]

theorem colCount_single (a : Address) : (single a).colCount = 1 := by
  simp [colCount, single]

/-- The cells between two opposite corners of which the first is the top left one. -/
theorem contains_ofPositions {low high : Position}
    (rows : low.row ≤ high.row) (cols : low.col ≤ high.col)
    : (ofPositions low high).contains p
      ↔ (low.row ≤ p.row ∧ p.row ≤ high.row) ∧ (low.col ≤ p.col ∧ p.col ≤ high.col) := by
  rw [contains_iff]
  simp only [ofPositions, spanning, Address.ofPosition, Nat.min_eq_left rows,
    Nat.max_eq_right rows, Nat.min_eq_left cols, Nat.max_eq_right cols]

/-- A range is the one between its own corners. -/
theorem spanning_corners (r : Range) : spanning r.first r.last = r := by
  obtain ⟨first, last, rows, cols⟩ := r
  simp only [spanning, Nat.min_eq_left rows, Nat.min_eq_left cols, Nat.max_eq_right rows,
    Nat.max_eq_right cols, rows, cols, if_true]

/-- The intersection covers what both ranges cover. -/
theorem contains_inter? (h : r.inter? s = some t)
    : t.contains p ↔ r.contains p ∧ s.contains p := by
  unfold inter? at h
  dsimp only at h
  split at h
  · cases h
  · next apart =>
    cases h
    simp only [Bool.or_eq_true, decide_eq_true_eq, not_or, Nat.not_lt] at apart
    rw [contains_ofPositions apart.1 apart.2, contains_iff, contains_iff]
    dsimp only
    omega

/-- The intersection with a range that covers another one is as large as the latter. -/
theorem exists_inter?_of_covers (first : r.contains s.first.position)
    (last : r.contains s.last.position)
    : ∃ t, r.inter? s = some t ∧ t.cellCount = s.cellCount := by
  rw [contains_iff] at first last
  simp only [Address.position] at first last
  have rows := s.rows_le
  have cols := s.cols_le
  refine ⟨ofPositions ⟨s.first.row, s.first.col⟩ ⟨s.last.row, s.last.col⟩, ?_, ?_⟩
  · simp only [inter?, Nat.max_eq_right first.1.1, Nat.max_eq_right first.2.1,
      Nat.min_eq_right last.1.2, Nat.min_eq_right last.2.2]
    rw [if_neg]
    simp only [Bool.or_eq_true, decide_eq_true_eq]
    omega
  · simp only [cellCount, rowCount, colCount, ofPositions, spanning, Address.ofPosition,
      Nat.min_eq_left rows, Nat.min_eq_left cols, Nat.max_eq_right rows, Nat.max_eq_right cols]

/-- Without an intersection, no cell lies in both ranges. -/
theorem not_contains_of_inter?_eq_none (h : r.inter? s = none) (left : r.contains p)
    : ¬s.contains p := by
  intro right
  unfold inter? at h
  dsimp only at h
  split at h
  · next apart =>
    simp only [Bool.or_eq_true, decide_eq_true_eq] at apart
    rw [contains_iff] at left right
    omega
  · cases h

end Spreadsheet.Range
