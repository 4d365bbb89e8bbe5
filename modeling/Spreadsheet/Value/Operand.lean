import Spreadsheet.Number.Numeral
import Spreadsheet.Value.Basic

/-! Operands of scalar operations: an argument is first reduced to one scalar as seen from a
cell, and the scalar then turned into a number, a truth value or a text.
-/

namespace Spreadsheet

/-- Implicit intersection: a single column is read in the row of the current cell, a single row
in its column, a single cell anywhere, and any other area at the current cell itself.
-/
def Area.intersect? (a : Area Value) (here : Position) : Option Value :=
  a.absolute? {
    row := if a.isRow then a.origin.row else here.row
    col := if a.isColumn then a.origin.col else here.col }

namespace Value

/-- Reduces an argument to the scalar seen from a cell. The result is no error, area or union. -/
def resolve (here : Position) : Value → Except CellError Value
  | error e => .error e
  | union _ => .error .value
  | area a =>
    match _h : a.intersect? here with
    | some value => value.resolve here
    | none => .error .value
  | value => .ok value
termination_by value => sizeOf value
decreasing_by exact Area.sizeOf_lt_of_absolute? _h

/-- The number that a scalar stands for; text has to be a numeral. -/
def toNumber : Value → Except CellError Float
  | number value => .ok value
  | boolean value => .ok (if value then 1 else 0)
  | blank => .ok 0
  | missing => .ok 0
  | text value =>
    match Number.parse? value with
    | some x => .ok x
    | none => .error .value
  | error e => .error e
  | area _ => .error .value
  | union _ => .error .value

/-- The truth value that a scalar stands for; what a blank stands for is up to the caller. -/
def toBoolean (ifBlank : Bool) : Value → Except CellError Bool
  | boolean value => .ok value
  | number value => if value.isNaN then .error .value else .ok (value != 0)
  | blank => .ok ifBlank
  | missing => .ok ifBlank
  | text value =>
    match Text.boolean? value with
    | some b => .ok b
    | none => .error .value
  | error e => .error e
  | area _ => .error .value
  | union _ => .error .value

/-- The text that a scalar stands for. -/
def toText : Value → Except CellError String
  | text value => .ok value
  | number value => .ok (Number.general value)
  | boolean value => .ok (Text.ofBool value)
  | blank => .ok ""
  | missing => .ok ""
  | error e => .error e
  | area _ => .error .value
  | union _ => .error .value

/-- The number that an argument stands for as seen from a cell. -/
def resolveNumber (here : Position) (argument : Value) : Except CellError Float := do
  (← argument.resolve here).toNumber

/-- The text that an argument stands for as seen from a cell. -/
def resolveText (here : Position) (argument : Value) : Except CellError String := do
  (← argument.resolve here).toText

end Value

end Spreadsheet
