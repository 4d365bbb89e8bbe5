import Spreadsheet.Evaluation.Context
import Spreadsheet.Value.Broadcast

/-! How functions look at their arguments: as the scalar seen from the current cell, as the cells
that a reference holds, or cell by cell.
-/

namespace Spreadsheet

/-- The outcome of a function. -/
abbrev Outcome := Except OperationError Value

namespace Value

/-- A finite number, or `#NUM!`. -/
def ofNumber : Except CellError Float → Value
  | .ok x => if x.isFinite then number x else error .num
  | .error e => error e

/-- The stored cells of an area or a union, row by row and area by area; the blank cells around
a block are not among them. Scalars hold no cells.
-/
def storedCells? : Value → Option (List Value)
  | area a => some a.cells.toList
  | union areas => some (areas.flatMap fun a => a.cells.toList)
  | _ => none

end Value

namespace Context

/-- The scalar that an argument shows at the current cell. -/
def scalar (ctx : Context) (argument : Value) : Except CellError Value :=
  argument.resolve ctx.here

/-- The number that an argument shows at the current cell. -/
def number (ctx : Context) (argument : Value) : Except CellError Float :=
  argument.resolveNumber ctx.here

/-- Applies a function of one scalar: in an array formula to every cell of its argument, else to
what is seen from the current cell. The function also gets errors.
-/
def lift (ctx : Context) (argument : Value) (f : Value → Value) : Outcome :=
  if ctx.arrayMode then Broadcast.lift₁ ctx.here argument fun value => .ok (f value)
  else .ok (f (.ofExcept (ctx.scalar argument)))

end Context

end Spreadsheet
