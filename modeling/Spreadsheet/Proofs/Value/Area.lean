import Spreadsheet.Proofs.Outcome
import Spreadsheet.Value.Basic

/-! When an area can be built, and what it shows at each of its cells. -/

namespace Spreadsheet

/-- Rows of one length, written one behind the other, keep their elements at regular places. -/
theorem getElem?_flatten_of_length {α : Type} {rows : List (List α)} {width : Nat}
    (even : ∀ row ∈ rows, row.length = width) (i : Nat) {j : Nat} (inRow : j < width)
    : rows.flatten[i * width + j]? = rows[i]?.bind (·[j]?) := by
  induction rows generalizing i with
  | nil => simp
  | cons row rows ih =>
    simp only [List.mem_cons, forall_eq_or_imp] at even
    obtain ⟨length, even⟩ := even
    rw [List.flatten_cons]
    cases i with
    | zero =>
      rw [Nat.zero_mul, Nat.zero_add, List.getElem?_append_left (length ▸ inRow)]
      rfl
    | succ i =>
      have shift : (i + 1) * width + j - width = i * width + j := by
        rw [Nat.succ_mul]
        omega
      rw [List.getElem?_append_right (by rw [length, Nat.succ_mul]; omega), length, shift]
      exact ih even i

/-- Rows have one length only. -/
theorem width_unique {α : Type} {rows : List (List α)} {width width' : Nat}
    (nonempty : 0 < rows.length) (even : ∀ row ∈ rows, row.length = width)
    (even' : ∀ row ∈ rows, row.length = width')
    : width = width' := by
  obtain ⟨row, mem⟩ := List.exists_mem_of_length_pos nonempty
  exact (even row mem).symm.trans (even' row mem)

namespace Area

variable {α : Type} {a : Area α} {origin : Position} {height width : Nat} {rows : List (List α)}

/-- Cells can be counted as far as an area reaches. -/
structure Fits (origin : Position) (height width : Nat) : Prop where
  tall : 0 < height
  wide : 0 < width
  lastRow : origin.row + height ≤ rowLimit
  lastCol : origin.col + width ≤ columnLimit

/-- An area of which nothing is stored. -/
def unstored (origin : Position) (height width : Nat) : Area α :=
  ⟨origin, height, width, 0, 0, 0, 0, #[]⟩

/-- An area stored as a whole. -/
def dense (origin : Position) (rows : List (List α)) (width : Nat) : Area α :=
  ⟨origin, rows.length, width, 0, 0, rows.length, width, rows.flatten.toArray⟩

-- When an area can be built

theorem blank_eq_ok
    : blank origin height width = .ok a
      ↔ Fits origin height width ∧ a = unstored origin height width := by
  unfold blank
  split
  · next empty =>
    simp only [Bool.or_eq_true, decide_eq_true_eq] at empty
    simp only [reduceCtorEq, false_iff, not_and]
    intro fits
    have := fits.tall
    have := fits.wide
    omega
  · next nonempty =>
    simp only [Bool.or_eq_true, decide_eq_true_eq, not_or] at nonempty
    split
    · next low =>
      simp only [reduceCtorEq, false_iff, not_and]
      intro fits
      have := fits.lastRow
      omega
    · split
      · next right =>
        simp only [reduceCtorEq, false_iff, not_and]
        intro fits
        have := fits.lastCol
        omega
      · have fits : Fits origin height width := ⟨by omega, by omega, by omega, by omega⟩
        simp only [Except.ok.injEq, fits, true_and, unstored, eq_comm]

theorem ragged?_eq_none : ragged? rows width = none ↔ ∀ row ∈ rows, row.length = width := by
  unfold ragged?
  split
  · next row index found =>
    have uneven : row.length ≠ width := by simpa using List.find?_some found
    have mem : row ∈ rows := List.fst_mem_of_mem_zipIdx (List.mem_of_find?_eq_some found)
    constructor
    · intro none
      cases none
    · intro even
      exact absurd (even row mem) uneven
  · next found =>
    refine iff_of_true rfl fun row mem => ?_
    obtain ⟨i, found'⟩ := List.mem_iff_getElem?.mp mem
    simpa using List.find?_eq_none.mp found (row, i) (List.mem_zipIdx_iff_getElem?.mpr found')

/-- Rows make up an area if they are equally long, and not too many or too long. -/
theorem ofRows_eq_ok
    : ofRows origin rows = .ok a
      ↔ ∃ width, (∀ row ∈ rows, row.length = width) ∧ rows.length < rowLimit
        ∧ width < columnLimit ∧ Fits origin rows.length width ∧ a = dense origin rows width := by
  unfold ofRows
  dsimp only
  constructor
  · intro h
    split at h
    · cases h
    · split at h
      · cases h
      · next even =>
        split at h
        · cases h
        · split at h
          · cases h
          · obtain ⟨area, built, h⟩ := except_bind_eq_ok.mp h
            obtain ⟨fits, rfl⟩ := blank_eq_ok.mp built
            cases h
            refine ⟨_, ragged?_eq_none.mp ?_, by omega, by omega, fits, rfl⟩
            exact Option.eq_none_iff_forall_ne_some.mpr fun found same => even _ _ same
  · intro h
    obtain ⟨width, even, few, short, fits, rfl⟩ := h
    have nonempty : rows ≠ [] := List.ne_nil_of_length_pos fits.tall
    have first : (rows.head?.map List.length).getD 0 = width := by
      obtain ⟨row, rows, rfl⟩ := List.exists_cons_of_ne_nil nonempty
      exact even row List.mem_cons_self
    have built : blank origin rows.length width
        = .ok (unstored origin rows.length width : Area α) :=
      blank_eq_ok.mpr ⟨fits, rfl⟩
    rw [first, ragged?_eq_none.mpr even, if_neg (Nat.ne_of_gt fits.wide)]
    dsimp only
    rw [if_neg (Nat.not_le.mpr few), if_neg (Nat.not_le.mpr short), built]
    rfl

-- What an area shows

theorem stored?_of_inBlock {row col : Nat}
    (inRows : a.blockRow ≤ row ∧ row - a.blockRow < a.blockHeight)
    (inCols : a.blockCol ≤ col ∧ col - a.blockCol < a.blockWidth)
    : a.stored? row col
      = a.cells[(row - a.blockRow) * a.blockWidth + (col - a.blockCol)]? := by
  rw [stored?, if_pos]
  simp only [Bool.and_eq_true, decide_eq_true_eq]
  exact ⟨⟨⟨inRows.1, inCols.1⟩, inRows.2⟩, inCols.2⟩

theorem stored?_of_outside {row col : Nat}
    (outside : ¬((a.blockRow ≤ row ∧ row - a.blockRow < a.blockHeight)
      ∧ (a.blockCol ≤ col ∧ col - a.blockCol < a.blockWidth)))
    : a.stored? row col = none := by
  rw [stored?, if_neg]
  simp only [Bool.and_eq_true, decide_eq_true_eq]
  intro inside
  exact outside ⟨⟨inside.1.1.1, inside.1.2⟩, inside.1.1.2, inside.2⟩

theorem containsRow_iff {row : Nat}
    : a.containsRow row ↔ a.origin.row ≤ row ∧ row ≤ a.origin.row + (a.height - 1) := by
  rw [containsRow, Bool.and_eq_true, decide_eq_true_eq, decide_eq_true_eq, lastRow]

theorem containsCol_iff {col : Nat}
    : a.containsCol col ↔ a.origin.col ≤ col ∧ col ≤ a.origin.col + (a.width - 1) := by
  rw [containsCol, Bool.and_eq_true, decide_eq_true_eq, decide_eq_true_eq, lastCol]

theorem relative?_of_lt {area : Area Value} {row col : Nat}
    (inRow : row < area.height) (inCol : col < area.width)
    : area.relative? row col = some ((area.stored? row col).getD .blank) := by
  simp [relative?, inRow, inCol]

/-- An area shows the same at an offset and at the position there. -/
theorem absolute?_offset {area : Area Value} {row col : Nat} (inRow : row < area.height)
    (inCol : col < area.width)
    : area.absolute? ⟨area.origin.row + row, area.origin.col + col⟩ = area.relative? row col := by
  have rows : area.containsRow (area.origin.row + row) := containsRow_iff.mpr (by omega)
  have cols : area.containsCol (area.origin.col + col) := containsCol_iff.mpr (by omega)
  simp [absolute?, rows, cols]

/-- What an area shows at an offset is blank or one of the stored cells. -/
theorem getD_stored?_cases (area : Area Value) (row col : Nat)
    : (area.stored? row col).getD .blank = .blank
      ∨ (area.stored? row col).getD .blank ∈ area.cells := by
  cases found : area.stored? row col with
  | none => exact .inl rfl
  | some value => exact .inr (mem_of_stored? found)

theorem absolute?_cases {area : Area Value} {p : Position} {value : Value}
    (found : area.absolute? p = some value)
    : value = .blank ∨ value ∈ area.cells := by
  unfold absolute? at found
  split at found
  · unfold relative? at found
    split at found
    · cases found
      exact area.getD_stored?_cases _ _
    · cases found
  · cases found

/-- An area that is stored as a whole shows its rows. -/
theorem relative?_dense {rows : List (List Value)} {row col : Nat} {value : Value}
    (even : ∀ row ∈ rows, row.length = width) (inRow : row < rows.length) (inCol : col < width)
    (found : rows[row]?.bind (·[col]?) = some value)
    : (dense origin rows width).relative? row col = some value := by
  have stored : (dense origin rows width).stored? row col = some value := by
    rw [stored?_of_inBlock (by simpa [dense] using inRow) (by simpa [dense] using inCol)]
    simpa [dense, getElem?_flatten_of_length even row inCol] using found
  rw [relative?_of_lt inRow inCol, stored, Option.getD_some]

/-- A block of rows can be stored wherever its corners lie inside the area. -/
theorem withBlock_eq_ok {place : Position}
    (built : ofRows place rows = .ok (dense place rows width)) (top : a.containsRow place.row)
    (bottom : a.containsRow (place.row + (rows.length - 1)))
    (left : a.containsCol place.col) (right : a.containsCol (place.col + (width - 1)))
    : a.withBlock place rows = .ok { a with
        blockRow := place.row - a.origin.row
        blockCol := place.col - a.origin.col
        blockHeight := rows.length
        blockWidth := width
        cells := rows.flatten.toArray } := by
  rw [withBlock, built]
  have inside : a.containsRow (dense place rows width).origin.row
      && a.containsRow (dense place rows width).lastRow
      && a.containsCol (dense place rows width).origin.col
      && a.containsCol (dense place rows width).lastCol := by
    simp only [dense, lastRow, lastCol, top, bottom, left, right, Bool.and_self]
  change (if _ then _ else _) = _
  rw [if_pos inside]
  rfl

/-- A block that was stored is made of even rows, whose place is counted from the corner. -/
theorem exists_of_withBlock {place : Position} {b : Area α} (h : a.withBlock place rows = .ok b)
    : ∃ width, (∀ row ∈ rows, row.length = width) ∧ b = { a with
        blockRow := place.row - a.origin.row
        blockCol := place.col - a.origin.col
        blockHeight := rows.length
        blockWidth := width
        cells := rows.flatten.toArray } := by
  obtain ⟨block, built, h⟩ := except_bind_eq_ok.mp h
  obtain ⟨width, even, _, _, _, rfl⟩ := ofRows_eq_ok.mp built
  split at h
  · cases h
    exact ⟨width, even, rfl⟩
  · cases h

end Area

end Spreadsheet
