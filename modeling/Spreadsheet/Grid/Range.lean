import Spreadsheet.Grid.Address
import Spreadsheet.Text.Cut

/-! Rectangles of cells, written `A1:B10`. -/

namespace Spreadsheet

/-- A rectangle given by its top left and bottom right corner. -/
structure Range where
  first : Address
  last : Address
  rows_le : first.row ≤ last.row
  cols_le : first.col ≤ last.col
  deriving DecidableEq, Repr

/-- Why a text is no range: it has no colon and is no address either, or one of its corners is
none.
-/
inductive RangeError where
  | cell (error : AddressError)
  | corner (error : AddressError)
  deriving DecidableEq, Repr

/-- The wording of a range error. -/
def RangeError.message : RangeError → String
  | .cell error => error.message
  | .corner error => "Invalid cell range: " ++ error.message

namespace Range

/-- The rectangle between two opposite corners; each coordinate keeps its `$`. -/
def spanning (a b : Address) : Range where
  first := {
    row := min a.row b.row
    col := min a.col b.col
    rowAbsolute := if a.row ≤ b.row then a.rowAbsolute else b.rowAbsolute
    colAbsolute := if a.col ≤ b.col then a.colAbsolute else b.colAbsolute }
  last := {
    row := max a.row b.row
    col := max a.col b.col
    rowAbsolute := if a.row ≤ b.row then b.rowAbsolute else a.rowAbsolute
    colAbsolute := if a.col ≤ b.col then b.colAbsolute else a.colAbsolute }
  rows_le := by simp only; omega
  cols_le := by simp only; omega

/-- The rectangle between two positions. -/
def ofPositions (p q : Position) : Range :=
  spanning (.ofPosition p) (.ofPosition q)

/-- The range of one cell. -/
def single (a : Address) : Range :=
  ⟨a, a, Nat.le_refl _, Nat.le_refl _⟩

/-- Reads two corners in any order around a colon, or one address. -/
def parse (text : String) : Except RangeError Range :=
  match Text.cutAt ':' (Unicode.trim text.toList) with
  | (cs, none) => ((Address.parse (String.ofList cs)).mapError .cell).map single
  | (left, some right) => do
    let first ← (Address.parse (String.ofList left)).mapError .corner
    let last ← (Address.parse (String.ofList right)).mapError .corner
    return spanning first last

/-- The range covers a position. -/
def contains (r : Range) (p : Position) : Bool :=
  (r.first.row ≤ p.row && p.row ≤ r.last.row) && (r.first.col ≤ p.col && p.col ≤ r.last.col)

/-- Number of rows covered. -/
def rowCount (r : Range) : Nat :=
  r.last.row - r.first.row + 1

/-- Number of columns covered. -/
def colCount (r : Range) : Nat :=
  r.last.col - r.first.col + 1

/-- Number of cells covered. -/
def cellCount (r : Range) : Nat :=
  r.rowCount * r.colCount

/-- The cells covered by both ranges. -/
def inter? (r s : Range) : Option Range :=
  let top := max r.first.row s.first.row
  let bottom := min r.last.row s.last.row
  let left := max r.first.col s.first.col
  let right := min r.last.col s.last.col
  if bottom < top || right < left then none
  else some (ofPositions ⟨top, left⟩ ⟨bottom, right⟩)

/-- The position at an index, counting row by row. -/
def cellAt (r : Range) (index : Nat) : Position :=
  ⟨r.first.row + index / r.colCount, r.first.col + index % r.colCount⟩

/-- At most `count` of the positions covered, row by row. -/
def firstCells (r : Range) (count : Nat) : List Position :=
  (List.range (min count r.cellCount)).map r.cellAt

/-- All positions covered, row by row. -/
def cells (r : Range) : List Position :=
  r.firstCells r.cellCount

/-- The two corners around a colon. -/
def cornerText (r : Range) : String :=
  r.first.text ++ ":" ++ r.last.text

/-- The range in A1 notation; one address if its corners are written alike. -/
def text (r : Range) : String :=
  if r.first = r.last then r.first.text else r.cornerText

end Range

end Spreadsheet
