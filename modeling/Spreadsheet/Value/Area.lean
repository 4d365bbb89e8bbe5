import Spreadsheet.Grid.Position

/-! Areas: rectangles of cells anywhere in the countable rows and columns, of which only a block
is stored. The cells outside the block have no value of their own, so that a whole column costs
no more than what is in it.
-/

namespace Spreadsheet

/-- Why there is no area of a certain shape. -/
inductive AreaError where
  | noCells
  | ragged (row count expected : Nat)
  | tooManyRows
  | tooManyColumns
  | pastLastRow
  | pastLastColumn
  | blockOutside
  deriving DecidableEq, Repr

/-- A rectangle with its stored block, whose place is counted from the rectangle's corner; the
stored cells stand row by row.
-/
structure Area (α : Type) where
  origin : Position
  height : Nat
  width : Nat
  blockRow : Nat
  blockCol : Nat
  blockHeight : Nat
  blockWidth : Nat
  cells : Array α

namespace Area

variable {α : Type}

/-- An area of which nothing is stored. -/
def blank (origin : Position) (height width : Nat) : Except AreaError (Area α) :=
  if height = 0 || width = 0 then .error .noCells
  else if rowLimit < origin.row + height then .error .pastLastRow
  else if columnLimit < origin.col + width then .error .pastLastColumn
  else .ok ⟨origin, height, width, 0, 0, 0, 0, #[]⟩

/-- The index and length of the first row that is not as long as the first one. -/
def ragged? (rows : List (List α)) (width : Nat) : Option (Nat × Nat) :=
  match rows.zipIdx.find? fun (row, _) => row.length != width with
  | some (row, index) => some (index, row.length)
  | none => none

/-- An area stored as a whole, given by its rows. -/
def ofRows (origin : Position) (rows : List (List α)) : Except AreaError (Area α) := do
  let width := (rows.head?.map List.length).getD 0
  if width = 0 then throw .noCells
  if let some (row, count) := ragged? rows width then throw (.ragged row count width)
  if rowLimit ≤ rows.length then throw .tooManyRows
  if columnLimit ≤ width then throw .tooManyColumns
  let area : Area α ← blank origin rows.length width
  return { area with
    blockHeight := rows.length
    blockWidth := width
    cells := rows.flatten.toArray }

/-- The area of one stored cell. -/
def single (origin : Position) (value : α) : Area α :=
  ⟨origin, 1, 1, 0, 0, 1, 1, #[value]⟩

/-- The last row covered. -/
def lastRow (a : Area α) : Nat :=
  a.origin.row + (a.height - 1)

/-- The last column covered. -/
def lastCol (a : Area α) : Nat :=
  a.origin.col + (a.width - 1)

/-- The area covers cells of a row. -/
def containsRow (a : Area α) (row : Nat) : Bool :=
  a.origin.row ≤ row && row ≤ a.lastRow

/-- The area covers cells of a column. -/
def containsCol (a : Area α) (col : Nat) : Bool :=
  a.origin.col ≤ col && col ≤ a.lastCol

/-- Stores a block of rows at a place inside the area, in place of the block stored before. -/
def withBlock (a : Area α) (place : Position) (rows : List (List α))
    : Except AreaError (Area α) := do
  let block ← ofRows place rows
  if a.containsRow block.origin.row && a.containsRow block.lastRow
      && a.containsCol block.origin.col && a.containsCol block.lastCol then
    return { a with
      blockRow := place.row - a.origin.row
      blockCol := place.col - a.origin.col
      blockHeight := block.height
      blockWidth := block.width
      cells := block.cells }
  else
    throw .blockOutside

/-- Number of cells covered, stored or not. -/
def cellCount (a : Area α) : Nat :=
  a.height * a.width

/-- Exactly one row. -/
def isRow (a : Area α) : Bool :=
  a.height == 1

/-- Exactly one column. -/
def isColumn (a : Area α) : Bool :=
  a.width == 1

/-- The value stored at an offset from the corner, if the block reaches there. -/
def stored? (a : Area α) (row col : Nat) : Option α :=
  if a.blockRow ≤ row && a.blockCol ≤ col && row - a.blockRow < a.blockHeight
      && col - a.blockCol < a.blockWidth then
    a.cells[(row - a.blockRow) * a.blockWidth + (col - a.blockCol)]?
  else
    none

/-- A stored value is one of the stored cells. -/
theorem mem_of_stored? {a : Area α} {row col : Nat} {value : α}
    (h : a.stored? row col = some value)
    : value ∈ a.cells := by
  unfold stored? at h
  split at h
  · exact Array.mem_of_getElem? h
  · cases h

/-- The position at an index, counting all cells row by row. -/
def positionAt (a : Area α) (index : Nat) : Position :=
  ⟨a.origin.row + index / a.width, a.origin.col + index % a.width⟩

end Area

end Spreadsheet
