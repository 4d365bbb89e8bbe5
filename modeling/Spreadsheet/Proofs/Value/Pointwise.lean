import Spreadsheet.Proofs.Value.Broadcast
import Spreadsheet.Proofs.Value.Resolve

/-! Lifted operations are pointwise: each cell of the result is the result for the cells that the
arguments show at the same offset, wherever these areas stand.
-/

namespace Spreadsheet

namespace Area

variable {a : Area Value} {row col : Nat}

/-- From a cell that it covers, that very cell is seen of an area, whatever its shape. -/
theorem intersect?_offset (inRow : row < a.height) (inCol : col < a.width)
    : a.intersect? ⟨a.origin.row + row, a.origin.col + col⟩ = a.relative? row col := by
  rw [intersect?, ← absolute?_offset inRow inCol]
  congr 2
  · simp only [isRow, beq_iff_eq, ite_eq_right_iff]
    omega
  · simp only [isColumn, beq_iff_eq, ite_eq_right_iff]
    omega

end Area

namespace Value

/-- The value is an area. -/
def isArea : Value → Bool
  | area _ => true
  | _ => false

variable {here there : Position} {value : Value}

theorem extent_of_not_isArea (single : value.isArea = false)
    : value.extent here = ⟨here, 1, 1⟩ := by
  cases value with
  | area a => cases single
  | _ => rfl

/-- Values other than areas are seen alike from everywhere. -/
theorem resolve_of_not_isArea (single : value.isArea = false)
    : value.resolve here = value.resolve there := by
  cases value with
  | area a => cases single
  | _ => simp [resolve]

theorem not_isArea_of_isScalar (scalar : value.isScalar) : value.isArea = false := by
  cases value with
  | area a => cases scalar
  | _ => rfl

theorem IsPlain.not_isArea (h : value.IsPlain) : value.isArea = false := by
  cases value with
  | area a => cases h
  | _ => rfl

theorem seenAt_of_lt {corner : Position} {row col : Nat}
    (stands : (value.extent here).origin = corner) (inRows : corner.row + row < rowLimit)
    (inCols : corner.col + col < columnLimit)
    : value.seenAt here row col = value.resolve ⟨corner.row + row, corner.col + col⟩ := by
  subst stands
  rw [seenAt, if_neg]
  simp only [Bool.or_eq_true, decide_eq_true_eq]
  omega

/-- A value other than an area is seen at every offset that can be counted. -/
theorem seenAt_of_not_isArea {row col : Nat} (single : value.isArea = false)
    (inRows : here.row + row < rowLimit) (inCols : here.col + col < columnLimit)
    : value.seenAt here row col = value.resolve here := by
  rw [seenAt_of_lt (congrArg Extent.origin (extent_of_not_isArea single)) inRows inCols]
  exact resolve_of_not_isArea single

/-- A value stands for the cells of a grid: one value for all of them, or an area of the size of
the grid with a scalar for each.
-/
inductive Spreads (height width : Nat) : Value → (Nat → Nat → Value) → Prop
  | constant {value : Value} (sound : value.Sound) (single : value.isArea = false)
    : Spreads height width value fun _ _ => value
  | area {a : Area Value} {cell : Nat → Nat → Value} (fits : Area.Fits a.origin height width)
    (tall : a.height = height) (wide : a.width = width)
    (cells : ∀ row < height, ∀ col < width, a.relative? row col = some (cell row col))
    (plain : ∀ row col, (cell row col).IsPlain)
    : Spreads height width (.area a) cell

namespace Spreads

variable {height width row col : Nat} {cell : Nat → Nat → Value}

theorem sound_cell (h : Spreads height width value cell) (row col : Nat)
    : (cell row col).Sound := by
  cases h with
  | constant sound single => exact sound
  | area _ _ _ _ plain => exact (plain row col).sound

theorem not_isArea_cell (h : Spreads height width value cell) (row col : Nat)
    : (cell row col).isArea = false := by
  cases h with
  | constant sound single => exact single
  | area _ _ _ _ plain => exact (plain row col).not_isArea

theorem extent (h : Spreads height width value cell)
    : (value.extent here).height = (if value.isArea then height else 1)
      ∧ (value.extent here).width = (if value.isArea then width else 1) := by
  cases h with
  | constant _ single =>
    rw [extent_of_not_isArea single, single]
    exact ⟨rfl, rfl⟩
  | area _ tall wide => exact ⟨tall, wide⟩

/-- At an offset, the cell that stands there is seen. -/
theorem seenAt (h : Spreads height width value cell) (room : Area.Fits here height width)
    (inRow : row < height) (inCol : col < width)
    : value.seenAt here row col = (cell row col).resolve here := by
  cases h with
  | constant _ single =>
    have lastRow := room.lastRow
    have lastCol := room.lastCol
    exact seenAt_of_not_isArea single (by omega) (by omega)
  | @area a _ fits tall wide cells plain =>
    have lastRow := fits.lastRow
    have lastCol := fits.lastCol
    have corner : ((Value.area a).extent here).origin = a.origin := rfl
    rw [seenAt_of_lt corner (by omega) (by omega), resolve_area,
      Area.intersect?_offset (tall ▸ inRow) (wide ▸ inCol), cells row inRow col inCol]
    exact resolve_of_not_isArea (plain row col).not_isArea

end Spreads

end Value

namespace Broadcast

variable {here : Position} {height width : Nat} {left right value : Value}

/-- An operation on what is seen of two arguments, of which an error is the result itself. -/
def onSeen (f : Value → Value → Outcome) (left right : Except CellError Value) : Outcome :=
  match left, right with
  | .error e, _ => .ok (.error e)
  | _, .error e => .ok (.error e)
  | .ok x, .ok y => f x y

theorem lift₂_eq_collect (f : Value → Value → Outcome)
    : lift₂ here left right f
      = collect here (max (left.extent here).height (right.extent here).height)
          (max (left.extent here).width (right.extent here).width)
          fun row col => onSeen f (left.seenAt here row col) (right.seenAt here row col) :=
  rfl

/-- A grid of several cells can be stored at the current cell. -/
structure Holds (here : Position) (height width : Nat) : Prop where
  room : Area.Fits here height width
  narrow : width < columnLimit
  several : 1 < height * width
  few : height * width ≤ Value.maxCells

namespace Holds

theorem inRows (h : Holds here height width) : here.row < rowLimit := by
  have tall := h.room.tall
  have lastRow := h.room.lastRow
  omega

theorem inCols (h : Holds here height width) : here.col < columnLimit := by
  have wide := h.room.wide
  have lastCol := h.room.lastCol
  omega

end Holds

/-- The values of a grid, row by row. -/
def rows (height width : Nat) (result : Nat → Nat → Value) : List (List Value) :=
  (List.range height).map fun row => (List.range width).map (result row)

theorem length_rows (result : Nat → Nat → Value) : (rows height width result).length = height := by
  rw [rows, List.length_map, List.length_range]

theorem length_of_mem_rows {result : Nat → Nat → Value}
    : ∀ row ∈ rows height width result, row.length = width := by
  intro row mem
  obtain ⟨_, _, rfl⟩ := List.mem_map.mp mem
  rw [List.length_map, List.length_range]

/-- Several cells, of which each has a value, are collected if their rows make up an area. -/
theorem collect_eq_ok {cell : Nat → Nat → Outcome} {result : Nat → Nat → Value}
    (several : 1 < height * width) (few : height * width ≤ Value.maxCells)
    (computed : ∀ row < height, ∀ col < width, cell row col = .ok (result row col))
    : collect here height width cell = .ok value
      ↔ ∃ a, Area.ofRows here (rows height width result) = .ok a ∧ value = .area a := by
  have notOne : ¬(height = 1 && width = 1) := by
    simp only [Bool.and_eq_true, decide_eq_true_eq]
    rintro ⟨rfl, rfl⟩
    exact absurd several (by decide)
  have run : ((List.range height).mapM fun row => (List.range width).mapM fun col => cell row col)
      = .ok (rows height width result) := by
    refine mapM_eq_ok_map _ fun row inRow => mapM_eq_ok_map _ fun col inCol => ?_
    exact computed row (List.mem_range.mp inRow) col (List.mem_range.mp inCol)
  rw [collect, if_neg notOne, if_neg (Nat.not_lt.mpr few), except_bind_eq_ok]
  constructor
  · rintro ⟨computedRows, ran, built⟩
    cases run.symm.trans ran
    split at built
    · next a found =>
      cases built
      exact ⟨a, found, rfl⟩
    · cases built
  · rintro ⟨a, built, rfl⟩
    exact ⟨_, run, by rw [built]; rfl⟩

/-- Computed scalars make up an area that stands at the current cell. -/
theorem exists_collect_area {cell : Nat → Nat → Outcome} {result : Nat → Nat → Value}
    (grid : Holds here height width)
    (computed : ∀ row < height, ∀ col < width, cell row col = .ok (result row col))
    (plain : ∀ row col, (result row col).IsPlain)
    : ∃ a, collect here height width cell = .ok (.area a) ∧ a.origin = here
      ∧ (Value.area a).Spreads height width result := by
  obtain ⟨room, narrow, several, few⟩ := grid
  have fewRows : height < rowLimit := by
    have := Nat.le_mul_of_pos_right height room.wide
    simp only [Value.maxCells, rowLimit] at few ⊢
    omega
  have built : Area.ofRows here (rows height width result)
      = .ok (.dense here (rows height width result) width) :=
    Area.ofRows_eq_ok.mpr ⟨width, length_of_mem_rows, (length_rows result).symm ▸ fewRows, narrow,
      (length_rows result).symm ▸ room, rfl⟩
  refine ⟨.dense here (rows height width result) width, ?_, rfl,
    .area room (length_rows result) rfl ?_ plain⟩
  · exact (collect_eq_ok several few computed).mpr ⟨_, built, rfl⟩
  · intro row inRow col inCol
    refine Area.relative?_dense length_of_mem_rows ((length_rows result).symm ▸ inRow) inCol ?_
    simp [rows, inRow, inCol]

/-- Several cells are collected only where there is room for all of them. -/
theorem fits_of_collect {cell : Nat → Nat → Outcome} {result : Nat → Nat → Value}
    (several : 1 < height * width) (few : height * width ≤ Value.maxCells)
    (computed : ∀ row < height, ∀ col < width, cell row col = .ok (result row col))
    (collected : collect here height width cell = .ok value)
    : Area.Fits here height width := by
  obtain ⟨a, built, _⟩ := (collect_eq_ok several few computed).mp collected
  obtain ⟨width', even, _, _, fits, _⟩ := Area.ofRows_eq_ok.mp built
  rw [length_rows] at fits
  obtain rfl := width_unique ((length_rows result).symm ▸ fits.tall) length_of_mem_rows even
  exact fits

/-- Of two values that are no areas, the operation looks at what is seen from the current cell. -/
theorem lift₂_of_not_isArea {f : Value → Value → Outcome} (hl : left.isArea = false)
    (hr : right.isArea = false) (inRows : here.row < rowLimit) (inCols : here.col < columnLimit)
    : lift₂ here left right f = onSeen f (left.resolve here) (right.resolve here) := by
  rw [lift₂_eq_collect, Value.extent_of_not_isArea hl, Value.extent_of_not_isArea hr]
  change onSeen f (left.seenAt here 0 0) (right.seenAt here 0 0) = _
  rw [Value.seenAt_of_not_isArea hl inRows inCols, Value.seenAt_of_not_isArea hr inRows inCols]

theorem lift₁_of_not_isArea {f : Value → Outcome} (single : value.isArea = false)
    (inRows : here.row < rowLimit) (inCols : here.col < columnLimit)
    : lift₁ here value f = f (.ofExcept (value.resolve here)) := by
  have corner : lift₁ here value f
      = collect here (value.extent here).height (value.extent here).width
          fun row col => f (.ofExcept (value.seenAt here row col)) := rfl
  rw [corner, Value.extent_of_not_isArea single]
  change f (.ofExcept (value.seenAt here 0 0)) = _
  rw [Value.seenAt_of_not_isArea single inRows inCols]

/-- What an operation on scalars needs to have a scalar as its result. -/
theorem exists_onSeen {f : Value → Value → Outcome} (hl : left.Sound) (hr : right.Sound)
    (operation : ∀ x y, x.IsOperand → y.IsOperand → ∃ value, f x y = .ok value ∧ value.IsPlain)
    : ∃ value, onSeen f (left.resolve here) (right.resolve here) = .ok value ∧ value.IsPlain := by
  cases seenLeft : left.resolve here with
  | error e => exact ⟨.error e, rfl, trivial⟩
  | ok x =>
    cases seenRight : right.resolve here with
    | error e => exact ⟨.error e, rfl, trivial⟩
    | ok y => exact operation x y (hl.resolve seenLeft) (hr.resolve seenRight)

/-- An operation on two arguments that stand for the cells of a grid is one on each pair of these
cells.
-/
theorem exists_spreads_lift₂ {f : Value → Value → Outcome} {leftCell rightCell : Nat → Nat → Value}
    (grid : Holds here height width) (hl : left.Spreads height width leftCell)
    (hr : right.Spreads height width rightCell)
    (operation : ∀ x y, x.IsOperand → y.IsOperand → ∃ value, f x y = .ok value ∧ value.IsPlain)
    : ∃ value cell, lift₂ here left right f = .ok value ∧ value.Spreads height width cell
      ∧ (∀ row < height, ∀ col < width,
          lift₂ here (leftCell row col) (rightCell row col) f = .ok (cell row col))
      ∧ (∀ a, value = .area a → a.origin = here)
      ∧ (left.isArea ∨ right.isArea → value.isArea) := by
  have each (row col : Nat)
      : ∃ value, onSeen f ((leftCell row col).resolve here) ((rightCell row col).resolve here)
          = .ok value ∧ value.IsPlain :=
    exists_onSeen (hl.sound_cell row col) (hr.sound_cell row col) operation
  choose cell computed plain using each
  have single (row col : Nat)
      : lift₂ here (leftCell row col) (rightCell row col) f = .ok (cell row col) := by
    rw [lift₂_of_not_isArea (hl.not_isArea_cell row col) (hr.not_isArea_cell row col) grid.inRows
      grid.inCols, computed]
  by_cases someArea : left.isArea ∨ right.isArea
  · have seen : ∀ row < height, ∀ col < width,
        onSeen f (left.seenAt here row col) (right.seenAt here row col) = .ok (cell row col) := by
      intro row inRow col inCol
      rw [hl.seenAt grid.room inRow inCol, hr.seenAt grid.room inRow inCol, computed]
    have widest {size : Nat} (pos : 1 ≤ size)
        : max (if left.isArea then size else 1) (if right.isArea then size else 1) = size := by
      rcases someArea with isArea | isArea
      · rw [isArea, if_pos rfl]
        split <;> omega
      · rw [isArea, if_pos rfl]
        split <;> omega
    have tall : max (left.extent here).height (right.extent here).height = height := by
      rw [hl.extent.1, hr.extent.1, widest grid.room.tall]
    have wide : max (left.extent here).width (right.extent here).width = width := by
      rw [hl.extent.2, hr.extent.2, widest grid.room.wide]
    obtain ⟨a, collected, stands, spreads⟩ := exists_collect_area grid seen plain
    refine ⟨.area a, cell, ?_, spreads, fun row _ col _ => single row col, ?_, fun _ => rfl⟩
    · rw [lift₂_eq_collect, tall, wide]
      exact collected
    · intro b same
      cases same
      exact stands
  · -- Without an area on either side, the arguments are the cells.
    cases hl with
    | area => exact absurd (.inl rfl) someArea
    | constant soundLeft singleLeft =>
      cases hr with
      | area => exact absurd (.inr rfl) someArea
      | constant soundRight singleRight =>
        have noArea := (plain 0 0).not_isArea
        refine ⟨cell 0 0, fun _ _ => cell 0 0, single 0 0, .constant (plain 0 0).sound noArea,
          fun _ _ _ _ => single 0 0, ?_, fun h => absurd h someArea⟩
        intro a isArea
        rw [isArea] at noArea
        cases noArea

/-- An operation on one argument that stands for the cells of a grid is one on each of them. -/
theorem exists_spreads_lift₁ {f : Value → Outcome} {cell : Nat → Nat → Value}
    (grid : Holds here height width) (h : value.Spreads height width cell)
    (operation : ∀ x, x.IsPlain → ∃ value, f x = .ok value ∧ value.IsPlain)
    : ∃ result cell', lift₁ here value f = .ok result ∧ result.Spreads height width cell'
      ∧ (∀ row < height, ∀ col < width, lift₁ here (cell row col) f = .ok (cell' row col))
      ∧ (∀ a, result = .area a → a.origin = here)
      ∧ (value.isArea → result.isArea) := by
  have each (row col : Nat)
      : ∃ result, f (.ofExcept ((cell row col).resolve here)) = .ok result ∧ result.IsPlain := by
    refine operation _ (Value.isPlain_ofExcept fun w seen => ?_)
    exact ((h.sound_cell row col).resolve seen).1
  choose cell' computed plain using each
  have single (row col : Nat) : lift₁ here (cell row col) f = .ok (cell' row col) := by
    rw [lift₁_of_not_isArea (h.not_isArea_cell row col) grid.inRows grid.inCols, computed]
  cases h with
  | constant sound noArea =>
    have noArea' := (plain 0 0).not_isArea
    refine ⟨cell' 0 0, fun _ _ => cell' 0 0, single 0 0, .constant (plain 0 0).sound noArea',
      fun _ _ _ _ => single 0 0, ?_, fun isArea => ?_⟩
    · intro a isArea
      rw [isArea] at noArea'
      cases noArea'
    · rw [noArea] at isArea
      cases isArea
  | @area a _ fits tall wide cells plain' =>
    have h : (Value.area a).Spreads height width cell := .area fits tall wide cells plain'
    have seen : ∀ row < height, ∀ col < width,
        f (.ofExcept ((Value.area a).seenAt here row col)) = .ok (cell' row col) := by
      intro row inRow col inCol
      rw [h.seenAt grid.room inRow inCol, computed]
    obtain ⟨b, collected, stands, spreads⟩ := exists_collect_area grid seen plain
    refine ⟨.area b, cell', ?_, spreads, fun row _ col _ => single row col, ?_, fun _ => rfl⟩
    · rw [← tall, ← wide] at collected
      exact collected
    · intro b' same
      cases same
      exact stands

end Broadcast

end Spreadsheet
