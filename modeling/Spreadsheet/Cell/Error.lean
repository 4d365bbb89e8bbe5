import Spreadsheet.Text.Case

/-! The error values of cells. They are results like any other, and no failure to evaluate. -/

namespace Spreadsheet

/-- An error value. -/
inductive CellError where
  | null
  | div0
  | value
  | ref
  | name
  | num
  | na
  | gettingData
  | spill
  | calculation
  deriving DecidableEq, Repr

namespace CellError

/-- All error values in the order of their codes. -/
def all : List CellError :=
  [null, div0, value, ref, name, num, na, gettingData, spill, calculation]

/-- The literal of an error. -/
def text : CellError → String
  | null => "#NULL!"
  | div0 => "#DIV/0!"
  | value => "#VALUE!"
  | ref => "#REF!"
  | name => "#NAME?"
  | num => "#NUM!"
  | na => "#N/A"
  | gettingData => "#GETTING_DATA"
  | spill => "#SPILL!"
  | calculation => "#CALC!"

/-- The number of an error in binary workbook files. -/
def code : CellError → Nat
  | null => 0x00
  | div0 => 0x07
  | value => 0x0f
  | ref => 0x17
  | name => 0x1d
  | num => 0x24
  | na => 0x2a
  | gettingData => 0x2b
  | spill => 0x2c
  | calculation => 0x2d

/-- The error that a literal in any case of its letters stands for. -/
def ofText? (text : String) : Option CellError :=
  all.find? fun error => Text.eqIgnoringAsciiCase error.text text

end CellError

end Spreadsheet
