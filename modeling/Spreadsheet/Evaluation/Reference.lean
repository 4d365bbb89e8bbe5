import Spreadsheet.Evaluation.Context
import Spreadsheet.Formula.SheetRef
import Spreadsheet.Value.Basic

/-! Reading the cells that a reference covers. Of a large range only the part that holds data is
read; the rest of its area is blank.
-/

namespace Spreadsheet

/-- Ranges of at most so many cells are read cell by cell. -/
def denseLimit : Nat := 0x10000

/-- Reading cells gives a result or an error value, unless an area cannot be built at all. -/
abbrev Reading := ExceptT CellError (Except AreaError)

/-- The values that formulas see in a range of a sheet, row by row. -/
def Sheet.values (sheet : Sheet) (r : Range) : List (List Value) :=
  (List.range' r.first.row r.rowCount).map fun row =>
    (List.range' r.first.col r.colCount).map fun col => .ofContent (sheet.get ⟨row, col⟩)

/-- The area of a range without any data. -/
def Range.blankArea (r : Range) : Except AreaError (Area Value) :=
  Area.blank r.first.position r.rowCount r.colCount

/-- The area of a range on a sheet; `#NUM!` if it is large and so is the part that holds data. -/
def Sheet.area (sheet : Sheet) (r : Range) : Reading (Area Value) :=
  if r.cellCount ≤ denseLimit then
    ExceptT.lift (Area.ofRows r.first.position (sheet.values r))
  else do
    let area ← ExceptT.lift r.blankArea
    match sheet.usedRange?.bind fun used => used.inter? r with
    | none => return area
    | some used =>
      if Value.maxCells < used.cellCount then throw .num
      else ExceptT.lift (area.withBlock used.first.position (sheet.values used))

namespace Context

/-- The indices of the sheets that a reference names, in the order of the workbook. Sheets of
other workbooks and unknown ones are `#REF!`.
-/
def sheets (ctx : Context) (book : Workbook) : Option SheetRef → Except CellError (List Nat)
  | none => .ok [ctx.sheet]
  | some r => do
    if r.book.isSome then throw .ref
    let find (name : String) : Except CellError Nat :=
      match book.sheetIndex? name with
      | some index => .ok index
      | none => .error .ref
    let first ← find r.first
    let last ← match r.last with
      | some name => find name
      | none => .ok first
    return List.range' (min first last) (max first last - min first last + 1)

/-- The area that a range has on each of the sheets of a reference. -/
def areas (ctx : Context) (sheet : Option SheetRef) (r : Range) : Reading (List (Area Value)) :=
  match ctx.book with
  | none => do return [← ExceptT.lift r.blankArea]
  | some book => do
    let indices ← ExceptT.mk (.ok (ctx.sheets book sheet))
    indices.mapM fun index =>
      match book.sheets[index]? with
      | some sheet => sheet.area r
      | none => throw .ref

/-- The value of a reading, with an error value in place of a failure to read. -/
def readValue (reading : Reading Value) : Except AreaError Value :=
  reading.run.map .ofExcept

/-- The value of a range: an area, or a union of one area per sheet. -/
def rangeValue (ctx : Context) (sheet : Option SheetRef) (r : Range) : Except AreaError Value :=
  readValue do
    match ← ctx.areas sheet r with
    | [area] => return .area area
    | areas => return .union areas

/-- The value of a cell: a scalar, or a union of one area per sheet. -/
def cellValue (ctx : Context) (sheet : Option SheetRef) (a : Address) : Except AreaError Value :=
  readValue do
    match ← ctx.areas sheet (.single a) with
    | [area] => return (area.relative? 0 0).getD .blank
    | areas => return .union areas

end Context

end Spreadsheet
