import Spreadsheet.Proofs.Evaluation.Agreement
import Spreadsheet.Proofs.Value.Pointwise

/-! Values whose areas stand at one cell, and the same values moved to another cell. Each is seen
from its own cell as the other one is from there, and operations that are lifted over both give the
same result but for its place.
-/

namespace Spreadsheet

/-- The same area in another place. -/
def Area.moveTo (a : Area Value) (origin : Position) : Area Value :=
  { a with origin }

/-- An area of scalars that stands at a cell, and that would have room at every cell of the grid. -/
structure Area.StandsAt (a : Area Value) (p : Position) : Prop where
  origin : a.origin = p
  short : a.height < 0x80000000
  narrow : a.width ≤ widestArea
  scalars : ∀ value ∈ a.cells, value.isScalar

namespace Value

/-- The same value with its areas in another place. -/
def moveTo (origin : Position) : Value → Value
  | area a => area (a.moveTo origin)
  | union areas => union (areas.map fun a => a.moveTo origin)
  | value => value

/-- All areas of the value stand at a cell. -/
def StandsAt (p : Position) : Value → Prop
  | area a => a.StandsAt p
  | union areas => ∀ a ∈ areas, a.StandsAt p
  | _ => True

/-- A value whose areas stand at one cell, and the same value at another. -/
structure Moved (p q : Position) (v w : Value) : Prop where
  stands : v.StandsAt p
  moved : w = v.moveTo q

end Value

variable {p q : Position} {a : Area Value} {row col : Nat}

-- Areas

namespace Area

theorem absolute?_moveTo (origin : a.origin = p)
    : (a.moveTo q).absolute? ⟨q.row + row, q.col + col⟩
      = a.absolute? ⟨p.row + row, p.col + col⟩ := by
  subst origin
  have rows : (a.moveTo q).containsRow (q.row + row) = a.containsRow (a.origin.row + row) := by
    simp [containsRow, lastRow, moveTo]
  have cols : (a.moveTo q).containsCol (q.col + col) = a.containsCol (a.origin.col + col) := by
    simp [containsCol, lastCol, moveTo]
  have rowOffset : q.row + row - q.row = a.origin.row + row - a.origin.row := by omega
  have colOffset : q.col + col - q.col = a.origin.col + col - a.origin.col := by omega
  rw [absolute?, absolute?, rows, cols, ← rowOffset, ← colOffset]
  rfl

/-- From the cell at an offset, a moved area looks as the original one does from there. -/
theorem intersect?_moveTo (origin : a.origin = p)
    : (a.moveTo q).intersect? ⟨q.row + row, q.col + col⟩
      = a.intersect? ⟨p.row + row, p.col + col⟩ := by
  have seen (row col : Nat) : (a.moveTo q).absolute? ⟨q.row + row, q.col + col⟩
      = a.absolute? ⟨p.row + row, p.col + col⟩ :=
    absolute?_moveTo origin
  subst origin
  have isRow : (a.moveTo q).isRow = a.isRow := rfl
  have isColumn : (a.moveTo q).isColumn = a.isColumn := rfl
  rw [intersect?, intersect?, isRow, isColumn]
  cases a.isRow with
  | true =>
    cases a.isColumn with
    | true => exact seen 0 0
    | false => exact seen 0 col
  | false =>
    cases a.isColumn with
    | true => exact seen row 0
    | false => exact seen row col

/-- Rows that have room wherever in the grid make up an area there, or none for the same reason. -/
theorem agree_ofRows {rows : List (List Value)} (hp : p.InGrid) (hq : q.InGrid)
    (short : rows.length < 0x80000000) (narrow : ∀ row ∈ rows, row.length ≤ widestArea)
    (scalars : ∀ row ∈ rows, ∀ value ∈ row, value.isScalar)
    : Agree (fun a b => a.StandsAt p ∧ b = a.moveTo q) (ofRows p rows) (ofRows q rows) := by
  unfold ofRows
  dsimp only
  split
  · exact .error _
  · next wide =>
    split
    · exact .error _
    · split
      · exact .error _
      · split
        · exact .error _
        · cases rows with
          | nil => exact absurd rfl wide
          | cons row rows =>
            have wide : 0 < row.length := Nat.pos_of_ne_zero wide
            have narrow := narrow row List.mem_cons_self
            have fits {here : Position} (inGrid : here.InGrid)
                : blank here (row :: rows).length row.length
                  = .ok (unstored here (row :: rows).length row.length : Area Value) :=
              blank_eq_ok.mpr ⟨inGrid.fits (Nat.succ_pos _) wide short narrow, rfl⟩
            change Agree _ (blank p (row :: rows).length row.length >>= _)
              (blank q (row :: rows).length row.length >>= _)
            rw [fits hp, fits hq]
            refine .ok ⟨⟨rfl, short, narrow, fun value mem => ?_⟩, rfl⟩
            obtain ⟨row', inRows, inRow⟩ := List.mem_flatten.mp (Array.mem_toList_iff.mpr mem)
            exact scalars row' inRows value inRow

end Area

-- Values

namespace Value

variable {v w : Value}

theorem isScalar_of_seenAt {here : Position} (seen : v.seenAt here row col = .ok w)
    : w.isScalar := by
  unfold seenAt at seen
  dsimp only at seen
  split at seen
  · cases seen
  · exact (isScalar_of_resolve seen).1

theorem moved_of_isScalar (scalar : v.isScalar) : v.Moved p q v := by
  cases v with
  | area a => cases scalar
  | union areas => cases scalar
  | _ => exact ⟨trivial, rfl⟩

namespace Moved

theorem isScalar (h : v.Moved p q w) : v.isScalar = w.isScalar := by
  obtain ⟨_, rfl⟩ := h
  cases v <;> rfl

/-- Of a scalar, nothing is moved. -/
theorem eq_of_isScalar (h : v.Moved p q w) (scalar : v.isScalar) : v = w := by
  obtain ⟨_, rfl⟩ := h
  cases v with
  | area a => cases scalar
  | union areas => cases scalar
  | _ => rfl

/-- Both values show the same at the same offset from their cells. -/
theorem resolve_offset (h : v.Moved p q w) (row col : Nat)
    : v.resolve ⟨p.row + row, p.col + col⟩ = w.resolve ⟨q.row + row, q.col + col⟩ := by
  obtain ⟨stands, rfl⟩ := h
  cases v with
  | area a =>
    rw [moveTo, resolve_area, resolve_area, Area.intersect?_moveTo stands.origin]
    cases found : a.intersect? ⟨p.row + row, p.col + col⟩ with
    | none => rfl
    | some value =>
      have scalar : value.isScalar := by
        rcases Area.absolute?_cases found with rfl | mem
        · rfl
        · exact stands.scalars value mem
      exact resolve_of_not_isArea (not_isArea_of_isScalar scalar)
  | union areas => rw [moveTo, Value.resolve, Value.resolve]
  | _ =>
    apply resolve_of_not_isArea
    rfl

theorem resolve (h : v.Moved p q w) : v.resolve p = w.resolve q :=
  h.resolve_offset 0 0

/-- Both values have the same grid, each at its own cell. -/
theorem exists_extent (h : v.Moved p q w)
    : ∃ height width, v.extent p = ⟨p, height, width⟩ ∧ w.extent q = ⟨q, height, width⟩
      ∧ height < 0x80000000 ∧ width ≤ widestArea := by
  obtain ⟨stands, rfl⟩ := h
  cases v with
  | area a =>
    exact ⟨a.height, a.width, by rw [extent, stands.origin], rfl, stands.short, stands.narrow⟩
  | _ => exact ⟨1, 1, rfl, rfl, by decide, by decide⟩

/-- Both values show the same at the same offset, as far as their cells leave room. -/
theorem seenAt (h : v.Moved p q w) (hp : p.InGrid) (hq : q.InGrid) {height width : Nat}
    (short : height < 0x80000000) (narrow : width ≤ widestArea) (inRow : row < height)
    (inCol : col < width)
    : v.seenAt p row col = w.seenAt q row col := by
  have inLimits {here : Position} (inGrid : here.InGrid)
      : here.row + row < rowLimit ∧ here.col + col < columnLimit := by
    have fits := inGrid.fits (Nat.zero_lt_of_lt inRow) (Nat.zero_lt_of_lt inCol) short narrow
    have lastRow := fits.lastRow
    have lastCol := fits.lastCol
    omega
  obtain ⟨_, _, left, right, _⟩ := h.exists_extent
  rw [seenAt_of_lt (congrArg Extent.origin left) (inLimits hp).1 (inLimits hp).2,
    seenAt_of_lt (congrArg Extent.origin right) (inLimits hq).1 (inLimits hq).2]
  exact h.resolve_offset row col

end Moved

end Value

-- Lifted operations

namespace Broadcast

open Value (Moved)

/-- More cells than one, but not too many, make up an area. -/
theorem collect_eq_bind {here : Position} {height width : Nat} {cell : Nat → Nat → Outcome}
    (several : ¬(height = 1 ∧ width = 1)) (few : height * width ≤ Value.maxCells)
    : collect here height width cell
      = ((List.range height).mapM fun row => (List.range width).mapM (cell row))
        >>= fun rows => ((Area.ofRows here rows).map Value.area).mapError OperationError.area := by
  rw [collect, if_neg (by simpa using several), if_neg (Nat.not_lt.mpr few)]
  refine bind_congr fun rows => ?_
  cases Area.ofRows here rows <;> rfl

/-- Cells that are computed alike make up values that are the same but for their place. -/
theorem agree_collect {height width : Nat} {cell cell' : Nat → Nat → Outcome} (hp : p.InGrid)
    (hq : q.InGrid) (short : height < 0x80000000) (narrow : width ≤ widestArea)
    (same : ∀ row < height, ∀ col < width, cell row col = cell' row col)
    (scalar : ∀ row col value, cell row col = .ok value → value.isScalar)
    : Agree (Moved p q) (collect p height width cell) (collect q height width cell') := by
  by_cases several : height = 1 ∧ width = 1
  · obtain ⟨rfl, rfl⟩ := several
    change Agree _ (cell 0 0) (cell' 0 0)
    rw [← same 0 Nat.one_pos 0 Nat.one_pos]
    cases computed : cell 0 0 with
    | error e => exact .error e
    | ok value => exact .ok (Value.moved_of_isScalar (scalar 0 0 value computed))
  by_cases few : height * width ≤ Value.maxCells
  · rw [collect_eq_bind several few, collect_eq_bind several few]
    have alike : ((List.range height).mapM fun row => (List.range width).mapM (cell row))
        = (List.range height).mapM fun row => (List.range width).mapM (cell' row) :=
      mapM_congr fun row inRows => mapM_congr fun col inCols =>
        same row (List.mem_range.mp inRows) col (List.mem_range.mp inCols)
    refine (Agree.with_runs (Agree.of_eq (R := Eq) alike fun _ => rfl)).bind fun rows _ h => ?_
    obtain ⟨rfl, computed, _⟩ := h
    have row (i : Nat) (values : List Value) (run : (List.range width).mapM (cell i) = .ok values)
        : values.length = width ∧ ∀ value ∈ values, value.isScalar := by
      simpa using forall_of_mapM_eq_ok run fun col _ => scalar i col
    obtain ⟨length, each⟩ := forall_of_mapM_eq_ok computed fun i _ => row i
    have built := Area.agree_ofRows hp hq (by simpa [length] using short)
      (fun row mem => (each row mem).1 ▸ narrow) fun row mem => (each row mem).2
    exact (built.map fun a b moved => ⟨moved.1, congrArg Value.area moved.2⟩).mapError _
  · have collected (here : Position) (cell : Nat → Nat → Outcome)
        : collect here height width cell = .ok (.error .num) := by
      rw [collect, if_neg (by simpa using several), if_pos (Nat.lt_of_not_le few)]
      rfl
    rw [collected, collected]
    exact .ok (Value.moved_of_isScalar rfl)

/-- A lifted operation on two arguments gives the same but for its place, if the operation itself
depends on the scalars only that are seen.
-/
theorem agree_lift₂ {left left' right right' : Value} {f f' : Value → Value → Outcome}
    (hp : p.InGrid) (hq : q.InGrid) (hl : left.Moved p q left') (hr : right.Moved p q right')
    (same : ∀ x y, x.isScalar → y.isScalar → f x y = f' x y)
    (scalar : ∀ x y value, f x y = .ok value → value.isScalar)
    : Agree (Moved p q) (lift₂ p left right f) (lift₂ q left' right' f') := by
  obtain ⟨height, width, gridLeft, gridLeft', short, narrow⟩ := hl.exists_extent
  obtain ⟨height', width', gridRight, gridRight', short', narrow'⟩ := hr.exists_extent
  have short : max height height' < 0x80000000 := Nat.max_lt.mpr ⟨short, short'⟩
  have narrow : max width width' ≤ widestArea := Nat.max_le.mpr ⟨narrow, narrow'⟩
  rw [lift₂_eq_collect, lift₂_eq_collect, gridLeft, gridLeft', gridRight, gridRight']
  refine agree_collect hp hq short narrow (fun row inRow col inCol => ?_) ?_
  · rw [← hl.seenAt hp hq short narrow inRow inCol, ← hr.seenAt hp hq short narrow inRow inCol]
    cases seenLeft : left.seenAt p row col with
    | error e => rfl
    | ok x =>
      cases seenRight : right.seenAt p row col with
      | error e => rfl
      | ok y =>
        exact same x y (Value.isScalar_of_seenAt seenLeft) (Value.isScalar_of_seenAt seenRight)
  · intro row col value computed
    unfold onSeen at computed
    split at computed
    · cases computed
      rfl
    · cases computed
      rfl
    · exact scalar _ _ value computed

/-- A lifted operation on one argument gives the same but for its place, if the operation itself
depends on the scalar only that is seen.
-/
theorem agree_lift₁ {v w : Value} {f f' : Value → Outcome} (hp : p.InGrid) (hq : q.InGrid)
    (h : v.Moved p q w) (same : ∀ x, x.isScalar → f x = f' x)
    (scalar : ∀ x value, f x = .ok value → value.isScalar)
    : Agree (Moved p q) (lift₁ p v f) (lift₁ q w f') := by
  obtain ⟨height, width, grid, grid', short, narrow⟩ := h.exists_extent
  rw [lift₁, lift₁, grid, grid']
  refine agree_collect hp hq short narrow (fun row inRow col inCol => ?_) fun row col => scalar _
  rw [← h.seenAt hp hq short narrow inRow inCol]
  exact same _ (Value.isScalar_ofExcept fun _ => Value.isScalar_of_seenAt)

end Broadcast

end Spreadsheet
