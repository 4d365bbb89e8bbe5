import Mathlib.Data.List.Nodup
import Spreadsheet.Proofs.Grid.Overflow
import Spreadsheet.Proofs.Grid.Range

/-! Ranges as sets of cells. Any two opposite corners give the cells between them; the cells are
listed row by row, each once, and counted without an overflow; and intersections are those of the
sets, from either side.
-/

namespace Spreadsheet

/-- The number is one of two bounds or lies between them, whichever of them is the greater one. -/
def Between (i j n : Nat) : Prop :=
  i ≤ n ∧ n ≤ j ∨ j ≤ n ∧ n ≤ i

/-- The position comes earlier row by row. -/
def Position.Before (p q : Position) : Prop :=
  p.row < q.row ∨ p.row = q.row ∧ p.col < q.col

theorem Position.Before.ne {p q : Position} (h : p.Before q) : p ≠ q := by
  rintro rfl
  rcases h with less | ⟨_, less⟩ <;> exact Nat.lt_irrefl _ less

namespace Range

variable {r s t : Range} {a b : Address} {p : Position}

theorem colCount_pos (r : Range) : 0 < r.colCount :=
  Nat.succ_pos _

/-- A range covers what lies between the corners that it was given by, in either order. -/
theorem contains_spanning
    : (spanning a b).contains p ↔ Between a.row b.row p.row ∧ Between a.col b.col p.col := by
  rw [contains_iff, spanning, Between, Between]
  dsimp only
  omega

-- The cells as a list

theorem cells_eq (r : Range) : r.cells = (List.range r.cellCount).map r.cellAt := by
  rw [cells, firstCells, Nat.min_self]

theorem length_cells (r : Range) : r.cells.length = r.cellCount := by
  rw [cells_eq, List.length_map, List.length_range]

/-- The index of a position is found from its row and its column. -/
theorem cellAt_offset {row col : Nat} (inCols : col < r.colCount)
    : r.cellAt (row * r.colCount + col) = ⟨r.first.row + row, r.first.col + col⟩ := by
  rw [cellAt, Nat.mul_comm row, Nat.mul_add_div r.colCount_pos, Nat.div_eq_of_lt inCols,
    Nat.mul_add_mod, Nat.mod_eq_of_lt inCols, Nat.add_zero]

theorem contains_cellAt {index : Nat} (inside : index < r.cellCount)
    : r.contains (r.cellAt index) := by
  refine contains_offset.mpr ⟨?_, Nat.mod_lt _ r.colCount_pos⟩
  exact Nat.div_lt_of_lt_mul (Nat.mul_comm r.rowCount r.colCount ▸ inside)

/-- The cells listed are those covered, each by its offsets from the corner. -/
theorem mem_cells : p ∈ r.cells ↔ r.contains p := by
  rw [cells_eq, List.mem_map]
  constructor
  · rintro ⟨index, inside, rfl⟩
    exact contains_cellAt (List.mem_range.mp inside)
  · intro inside
    obtain ⟨⟨top, bottom⟩, left, right⟩ := contains_iff_lt.mp inside
    have inRows : p.row - r.first.row < r.rowCount := by omega
    have inCols : p.col - r.first.col < r.colCount := by omega
    refine ⟨(p.row - r.first.row) * r.colCount + (p.col - r.first.col), ?_, ?_⟩
    · rw [List.mem_range]
      calc (p.row - r.first.row) * r.colCount + (p.col - r.first.col)
        _ < (p.row - r.first.row + 1) * r.colCount := by
          rw [Nat.succ_mul]
          exact Nat.add_lt_add_left inCols _
        _ ≤ r.rowCount * r.colCount := Nat.mul_le_mul_right _ inRows
    · rw [cellAt_offset inCols, Nat.add_sub_cancel' top, Nat.add_sub_cancel' left]

/-- A greater index is that of a later position. -/
theorem cellAt_before {i j : Nat} (less : i < j) : (r.cellAt i).Before (r.cellAt j) := by
  have rows : i / r.colCount ≤ j / r.colCount := Nat.div_le_div_right (Nat.le_of_lt less)
  rcases Nat.lt_or_eq_of_le rows with above | level
  · exact .inl (Nat.add_lt_add_left above _)
  · refine .inr ⟨congrArg (r.first.row + ·) level, Nat.add_lt_add_left ?_ _⟩
    have first := Nat.div_add_mod i r.colCount
    have second := Nat.div_add_mod j r.colCount
    rw [level] at first
    omega

theorem pairwise_cells (r : Range) : r.cells.Pairwise Position.Before := by
  rw [cells_eq, List.pairwise_map]
  exact List.pairwise_lt_range.imp cellAt_before

theorem nodup_cells (r : Range) : r.cells.Nodup :=
  r.pairwise_cells.imp Position.Before.ne

-- The number of cells

/-- The number of cells, computed in words of 32 bits for rows, of 16 bits for columns and of 64
bits for their product.
-/
def cellCountInWords (r : Range) : Except Word.Overflow Nat := do
  let below ← Word.unsigned 32 (r.last.row - r.first.row)
  let rows ← Word.unsigned 32 (below + 1)
  let beside ← Word.unsigned 16 (r.last.col - r.first.col)
  let cols ← Word.unsigned 16 (beside + 1)
  Word.unsigned 64 (rows * cols)

/-- No step of counting the cells of a range is too large for its word within the grid. -/
theorem cellCountInWords_eq (inGrid : r.last.position.InGrid)
    : r.cellCountInWords = .ok r.cellCount := by
  obtain ⟨row, col⟩ := inGrid
  simp only [Address.position, maxRows, maxColumns] at row col
  have rows := r.rows_le
  have cols := r.cols_le
  have tall : r.rowCount ≤ 1048576 := by
    rw [rowCount]
    omega
  have wide : r.colCount ≤ 16384 := by
    rw [colCount]
    omega
  have count : r.cellCount ≤ 1048576 * 16384 := Nat.mul_le_mul tall wide
  have below : Word.unsigned 32 (r.last.row - r.first.row) = .ok (r.last.row - r.first.row) :=
    Word.unsigned_eq (by omega) (by omega)
  have beside : Word.unsigned 16 (r.last.col - r.first.col) = .ok (r.last.col - r.first.col) :=
    Word.unsigned_eq (by omega) (by omega)
  have rowWord : Word.unsigned 32 ((r.last.row - r.first.row : Nat) + 1) = .ok r.rowCount :=
    Word.unsigned_eq rfl (by omega)
  have colWord : Word.unsigned 16 ((r.last.col - r.first.col : Nat) + 1) = .ok r.colCount :=
    Word.unsigned_eq rfl (by omega)
  have product : Word.unsigned 64 ((r.rowCount : Int) * r.colCount) = .ok r.cellCount :=
    Word.unsigned_eq (Nat.cast_mul ..).symm (by omega)
  exact except_bind_eq_ok.mpr ⟨_, below, except_bind_eq_ok.mpr ⟨_, rowWord,
    except_bind_eq_ok.mpr ⟨_, beside, except_bind_eq_ok.mpr ⟨_, colWord, product⟩⟩⟩⟩

-- Intersections

/-- There is no intersection just if no cell is in both ranges. -/
theorem inter?_eq_none : r.inter? s = none ↔ ∀ p, ¬(r.contains p ∧ s.contains p) := by
  constructor
  · rintro apart p ⟨left, right⟩
    exact not_contains_of_inter?_eq_none apart left right
  · intro apart
    cases found : r.inter? s with
    | none => rfl
    | some t => exact absurd ((contains_inter? found).mp contains_first) (apart _)

/-- A range of the grid is the set of cells between the two corners that it was given by, whichever
these are: it lists those cells row by row, each once, and counts them without an overflow. Two
ranges have no intersection just if they share no cell, and otherwise their intersection is what
they share, from either side.
-/
theorem spanning_set_of_cells {a b : Address} (ha : a.position.InGrid) (hb : b.position.InGrid)
    (s : Range)
    : let r := spanning a b
      (∀ p, r.contains p ↔ Between a.row b.row p.row ∧ Between a.col b.col p.col)
        ∧ (∀ p, p ∈ r.cells ↔ r.contains p)
        ∧ r.cells.Nodup
        ∧ r.cells.Pairwise Position.Before
        ∧ r.cells.length = r.cellCount
        ∧ r.cellCountInWords = .ok r.cellCount
        ∧ (r.inter? s = none ↔ ∀ p, ¬(r.contains p ∧ s.contains p))
        ∧ (∀ t, r.inter? s = some t → ∀ p, t.contains p ↔ r.contains p ∧ s.contains p)
        ∧ (r.inter? s = none ↔ s.inter? r = none)
        ∧ ∀ t u, r.inter? s = some t → s.inter? r = some u → ∀ p, t.contains p ↔ u.contains p := by
  intro r
  have inGrid : r.last.position.InGrid := ⟨max_lt ha.1 hb.1, max_lt ha.2 hb.2⟩
  refine ⟨fun p => contains_spanning, fun p => mem_cells, r.nodup_cells, r.pairwise_cells,
    r.length_cells, cellCountInWords_eq inGrid, inter?_eq_none, fun t found p =>
    contains_inter? found, ?_, fun t u found found' p => ?_⟩
  · rw [inter?_eq_none, inter?_eq_none]
    exact forall_congr' fun p => not_congr and_comm
  · rw [contains_inter? found, contains_inter? found', and_comm]

/-- Corners given from the lower left to the upper right, and a range that goes across. -/
theorem spanning_set_of_cells_crossed
    : let a : Address := { row := 5, col := 3, rowAbsolute := true }
      let b : Address := { row := 2, col := 7 }
      let s : Range := spanning { row := 8, col := 2 } { row := 4, col := 4 }
      a.position.InGrid ∧ b.position.InGrid
        ∧ ⟨4, 4⟩ ∈ (spanning a b).cells
        ∧ (spanning a b).cells.length = 20
        ∧ (spanning a b).inter? s ≠ none
        ∧ s.inter? (spanning a b) ≠ none := by
  intro a b s
  have ha : a.position.InGrid := ⟨by decide, by decide⟩
  have hb : b.position.InGrid := ⟨by decide, by decide⟩
  obtain ⟨_, listed, _, _, count, _, apart, _, comm, _⟩ := spanning_set_of_cells ha hb s
  have shared : (spanning a b).inter? s ≠ none :=
    fun none => apart.mp none ⟨4, 4⟩ ⟨by decide, by decide⟩
  exact ⟨ha, hb, (listed _).mpr (by decide), count, shared, fun none => shared (comm.mpr none)⟩

end Range

end Spreadsheet
