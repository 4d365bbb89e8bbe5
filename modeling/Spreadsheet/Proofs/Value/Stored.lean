import Spreadsheet.Proofs.Value.Alike

/-! What an area stores. However it was built, its block lies inside of it and holds one value for
each of its places, so that the data of an area is the data that it shows.
-/

namespace Spreadsheet

/-- A list as long as a grid has cells is the grid read row by row. -/
theorem eq_flatMap_of_length {α : Type} {cells : List α} {height width : Nat}
    (full : cells.length = height * width) (value : α)
    : cells = (List.range height).flatMap fun row =>
        (List.range width).map fun col => (cells[row * width + col]?).getD value := by
  have even : ∀ line ∈ (List.range height).map (fun row =>
      (List.range width).map fun col => (cells[row * width + col]?).getD value),
      line.length = width := by
    simp
  rw [List.flatMap_def]
  refine List.ext_getElem? fun index => ?_
  by_cases inside : index < height * width
  · have wide : 0 < width := Nat.pos_of_ne_zero fun none => by simp [none] at inside
    have inRow : index / width < height := Nat.div_lt_of_lt_mul (Nat.mul_comm _ _ ▸ inside)
    have inCol : index % width < width := Nat.mod_lt _ wide
    have place : index / width * width + index % width = index := Nat.div_add_mod' _ _
    have found := getElem?_flatten_of_length even (index / width) inCol
    rw [place] at found
    rw [found]
    simp [inRow, inCol, place, full ▸ inside]
  · rw [List.getElem?_eq_none (by omega), List.getElem?_eq_none]
    rw [List.length_flatten, List.map_congr_left even, List.map_const', List.sum_replicate,
      smul_eq_mul, List.length_map, List.length_range]
    exact Nat.not_lt.mp inside

namespace Area

section Built

variable {α : Type} {a b : Area α} {origin place : Position} {height width : Nat}
  {rows : List (List α)}

/-- An area as it can come about: stored as a whole, of one stored cell, not stored at all, or with
a block put in place of the one before.
-/
inductive Built : Area α → Prop
  | ofRows {a : Area α} {origin : Position} {rows : List (List α)}
      (built : ofRows origin rows = .ok a) : Built a
  | single {origin : Position} (value : α) (fits : Fits origin 1 1) : Built (.single origin value)
  | blank {a : Area α} {origin : Position} {height width : Nat}
      (built : blank origin height width = .ok a) : Built a
  | withBlock {a b : Area α} {place : Position} {rows : List (List α)} (before : Built a)
      (stored : a.withBlock place rows = .ok b) : Built b

/-- The block of an area lies inside of it, with one value for each of its places. -/
structure WellStored (a : Area α) : Prop where
  fits : Fits a.origin a.height a.width
  rows : a.blockRow + a.blockHeight ≤ a.height
  cols : a.blockCol + a.blockWidth ≤ a.width
  full : a.cells.size = a.blockHeight * a.blockWidth

theorem wellStored_unstored (fits : Fits origin height width)
    : (unstored origin height width : Area α).WellStored :=
  ⟨fits, Nat.zero_le _, Nat.zero_le _, rfl⟩

theorem wellStored_dense (even : ∀ row ∈ rows, row.length = width)
    (fits : Fits origin rows.length width)
    : (dense origin rows width).WellStored := by
  refine ⟨fits, Nat.le_of_eq (Nat.zero_add _), Nat.le_of_eq (Nat.zero_add _), ?_⟩
  simp only [dense, List.size_toArray, List.length_flatten]
  rw [List.map_congr_left even, List.map_const', List.sum_replicate, smul_eq_mul]

/-- Storing a block needs its corners inside the area, and hence all of it. -/
theorem WellStored.withBlock (before : a.WellStored) (stored : a.withBlock place rows = .ok b)
    : b.WellStored := by
  obtain ⟨block, built, stored⟩ := except_bind_eq_ok.mp stored
  obtain ⟨width, even, _, _, fits, rfl⟩ := ofRows_eq_ok.mp built
  split at stored
  · next inside =>
    simp only [Bool.and_eq_true, containsRow_iff, containsCol_iff, dense, lastRow, lastCol]
      at inside
    obtain ⟨⟨⟨top, bottom⟩, left⟩, right⟩ := inside
    have tall := fits.tall
    have wide := fits.wide
    have tallArea := before.fits.tall
    have wideArea := before.fits.wide
    cases stored
    refine ⟨before.fits, ?_, ?_, (wellStored_dense even fits).full⟩
    · simp only [dense]
      omega
    · simp only [dense]
      omega
  · cases stored

/-- However an area came about, its block lies inside of it; by induction on how it was built. -/
theorem Built.wellStored (h : a.Built) : a.WellStored := by
  induction h with
  | ofRows built =>
    obtain ⟨width, even, _, _, fits, rfl⟩ := ofRows_eq_ok.mp built
    exact wellStored_dense even fits
  | single value fits => exact ⟨fits, Nat.le_refl _, Nat.le_refl _, rfl⟩
  | blank built =>
    obtain ⟨fits, rfl⟩ := blank_eq_ok.mp built
    exact wellStored_unstored fits
  | withBlock _ stored ih => exact ih.withBlock stored

end Built

section Data

variable {a b : Area Value}

/-- The value shown at an offset, unless it is blank. -/
def dataAt (a : Area Value) (row col : Nat) : List Value :=
  [(a.stored? row col).getD .blank].filter Value.isData

/-- The stored cells are those of the block, row by row. -/
theorem WellStored.cells_eq (h : a.WellStored)
    : a.cells.toList = (List.range' a.blockRow a.blockHeight).flatMap fun row =>
        (List.range' a.blockCol a.blockWidth).map fun col => (a.stored? row col).getD .blank := by
  have full : a.cells.toList.length = a.blockHeight * a.blockWidth := h.full
  rw [List.range'_eq_map_range, List.range'_eq_map_range, List.flatMap_map]
  refine (eq_flatMap_of_length full .blank).trans (List.flatMap_congr fun row inRows => ?_)
  rw [List.map_map]
  refine List.map_congr_left fun col inCols => ?_
  rw [List.mem_range] at inRows inCols
  rw [Function.comp_apply, stored?_of_inBlock (by omega) (by omega), Nat.add_sub_cancel_left,
    Nat.add_sub_cancel_left, Array.getElem?_toList]

/-- The data of an area is what it shows, row by row; nothing outside the block is data. -/
theorem WellStored.data_eq (h : a.WellStored)
    : a.data = (List.range' 0 a.height).flatMap fun row =>
        (List.range' 0 a.width).flatMap (a.dataAt row) := by
  have none {row col : Nat} (outside : ¬((a.blockRow ≤ row ∧ row < a.blockRow + a.blockHeight)
      ∧ (a.blockCol ≤ col ∧ col < a.blockCol + a.blockWidth)))
      : a.dataAt row col = [] := by
    rw [dataAt, stored?_of_outside (by omega)]
    rfl
  calc a.data
    _ = (List.range' a.blockRow a.blockHeight).flatMap fun row =>
        (List.range' a.blockCol a.blockWidth).flatMap (a.dataAt row) := by
      rw [data, h.cells_eq, List.filter_flatMap]
      refine List.flatMap_congr fun row _ => ?_
      rw [List.map_eq_flatMap, List.filter_flatMap]
      rfl
    _ = (List.range' 0 a.height).flatMap fun row =>
        (List.range' a.blockCol a.blockWidth).flatMap (a.dataAt row) := by
      refine (flatMap_range'_of_outside (Nat.zero_le _) ?_ fun row _ _ outside => ?_).symm
      · rw [Nat.zero_add]
        exact h.rows
      · exact List.flatMap_eq_nil_iff.mpr fun col _ => none fun inside => outside inside.1
    _ = (List.range' 0 a.height).flatMap fun row =>
        (List.range' 0 a.width).flatMap (a.dataAt row) := by
      refine List.flatMap_congr fun row _ => ?_
      refine (flatMap_range'_of_outside (Nat.zero_le _) ?_ fun col _ _ outside => ?_).symm
      · rw [Nat.zero_add]
        exact h.cols
      · exact none fun inside => outside inside.2

-- Two areas side by side

/-- Two areas cover the same cells and show the same value at each of them. -/
structure SameCells (a b : Area Value) : Prop where
  origin : a.origin = b.origin
  height : a.height = b.height
  width : a.width = b.width
  value : ∀ p, a.absolute? p = b.absolute? p

theorem relative?_of_outside {row col : Nat} (outside : ¬(row < a.height ∧ col < a.width))
    : a.relative? row col = none := by
  simp only [relative?, Bool.and_eq_true, decide_eq_true_eq, if_neg outside]

theorem SameCells.relative? (same : a.SameCells b) (row col : Nat)
    : a.relative? row col = b.relative? row col := by
  by_cases inside : row < a.height ∧ col < a.width
  · have inside' : row < b.height ∧ col < b.width := same.height ▸ same.width ▸ inside
    rw [← absolute?_offset inside.1 inside.2, ← absolute?_offset inside'.1 inside'.2, same.value,
      same.origin]
  · rw [relative?_of_outside inside, relative?_of_outside (same.height ▸ same.width ▸ inside)]

/-- It is enough to compare two areas at the offsets inside of them. -/
theorem sameCells_of_relative? (origin : a.origin = b.origin) (height : a.height = b.height)
    (width : a.width = b.width)
    (value : ∀ row < a.height, ∀ col < a.width, a.relative? row col = b.relative? row col)
    : a.SameCells b := by
  refine ⟨origin, height, width, fun p => ?_⟩
  have all (row col : Nat) : a.relative? row col = b.relative? row col := by
    by_cases inside : row < a.height ∧ col < a.width
    · exact value row inside.1 col inside.2
    · rw [relative?_of_outside inside, relative?_of_outside (height ▸ width ▸ inside)]
  rw [absolute?, containsRow, containsCol, lastRow, lastCol, origin, height, width, all]
  rfl

/-- Areas that show the same look alike, whichever of their blank cells they store. -/
theorem SameCells.alike (same : a.SameCells b) (ha : a.WellStored) (hb : b.WellStored)
    : a.Alike b := by
  refine ⟨same.origin, same.height, same.width, same.relative?, ?_⟩
  rw [ha.data_eq, hb.data_eq, ← same.height, ← same.width]
  refine List.flatMap_congr fun row inRows => List.flatMap_congr fun col inCols => ?_
  have inRow : row < a.height := by simpa using List.mem_range'_1.mp inRows
  have inCol : col < a.width := by simpa using List.mem_range'_1.mp inCols
  have shown := same.relative? row col
  rw [relative?_of_lt inRow inCol, relative?_of_lt (same.height ▸ inRow) (same.width ▸ inCol)]
    at shown
  rw [dataAt, dataAt, Option.some.inj shown]

end Data

end Area

end Spreadsheet
