import Spreadsheet.Book.Cells
import Spreadsheet.Book.Mutation

/-! A sheet: a name and a sparse grid of cell contents. -/

namespace Spreadsheet

/-- A sheet keeps the cells that are not empty. -/
structure Sheet where
  name : String
  cells : Cells

namespace Sheet

/-- A sheet without cells. -/
def blank (name : String) : Sheet :=
  ⟨name, ∅⟩

/-- The content of a cell; a cell that was never set is empty. -/
def get (sheet : Sheet) (p : Position) : Content :=
  (sheet.cells.get? p).getD .empty

/-- The content of the cell at an address. -/
def getAddress (sheet : Sheet) (address : String) : Except AddressError Content := do
  return sheet.get (← Address.parse address).position

/-- Empties a cell. -/
def clear (sheet : Sheet) (p : Position) : Sheet :=
  { sheet with cells := sheet.cells.erase p }

/-- Gives a cell a content; the empty content clears it. -/
def put (sheet : Sheet) (p : Position) (content : Content) : Sheet :=
  if content.isEmpty then sheet.clear p
  else { sheet with cells := sheet.cells.insert p content }

/-- Refuses positions outside the grid, and looks at the row first. -/
def checkBounds (p : Position) : Except AddressError Unit :=
  if maxRows ≤ p.row then .error (.rowOutOfBounds p.row)
  else if maxColumns ≤ p.col then .error (.columnOutOfBounds p.col)
  else .ok ()

/-- A formula's text with the equals sign that starts it. -/
def formulaSource (text : String) : String :=
  match text.toList with
  | '=' :: _ => text
  | _ => "=" ++ text

namespace InPlace

/-- Stores a content in a cell of the grid. -/
def set (p : Position) (content : Content) : Mutation AddressError Sheet Unit := do
  checkBounds p
  modify fun sheet => sheet.put p content

/-- Stores a content in the cell at an address. -/
def setAddress (address : String) (content : Content) : Mutation AddressError Sheet Unit := do
  let a ← Address.parse address
  set a.position content

/-- Stores a formula that has not been calculated. -/
def setFormula (address text : String) : Mutation AddressError Sheet Unit :=
  setAddress address (.formula (formulaSource text))

/-- Stores a formula with its result. -/
def setCalculated (address text : String) (result : Content) : Mutation AddressError Sheet Unit :=
  setAddress address (.calculated (formulaSource text) result)

end InPlace

/-- The sheet with a content stored in a cell. -/
def set (sheet : Sheet) (p : Position) (content : Content) : Except AddressError Sheet :=
  (InPlace.set p content).result sheet

/-- The sheet with a content stored in the cell at an address. -/
def setAddress (sheet : Sheet) (address : String) (content : Content)
    : Except AddressError Sheet :=
  (InPlace.setAddress address content).result sheet

/-- The sheet with a formula stored that has not been calculated. -/
def setFormula (sheet : Sheet) (address text : String) : Except AddressError Sheet :=
  (InPlace.setFormula address text).result sheet

/-- The sheet with a formula stored with its result. -/
def setCalculated (sheet : Sheet) (address text : String) (result : Content)
    : Except AddressError Sheet :=
  (InPlace.setCalculated address text result).result sheet

/-- Number of cells that are not empty. -/
def cellCount (sheet : Sheet) : Nat :=
  sheet.cells.size

/-- The smallest range around the cells that are not empty. -/
def usedRange? (sheet : Sheet) : Option Range :=
  sheet.cells.boundingRange?

end Sheet

end Spreadsheet
