import Spreadsheet.Value.Operand

/-! The order of scalars: numbers come before text, and text before truth values. A blank takes
the place of zero, the empty text or `FALSE`, as its partner asks for.
-/

namespace Spreadsheet

/-- Why an operation on values has no value, not even an error value. -/
inductive OperationError where
  /-- The result would be an area of an impossible shape. -/
  | area (e : AreaError)
  /-- The operands, of these kinds, have no order. -/
  | incomparable (left right : String)
  /-- An operation that was lifted over areas failed. -/
  | lifted (detail : String)
  deriving DecidableEq, Repr

/-- The wording of an area error. -/
def AreaError.message : AreaError → String
  | noCells => "Invalid argument to Area: area must contain at least one cell"
  | ragged row count expected =>
    s!"Invalid argument to Area: row {Number.digitText row} has {Number.digitText count} values, expected {Number.digitText expected}"
  | tooManyRows => "Invalid argument to Area: too many rows"
  | tooManyColumns => "Invalid argument to Area: too many columns"
  | pastLastRow => "Invalid argument to Area: area extends past the last row"
  | pastLastColumn => "Invalid argument to Area: area extends past the last column"
  | blockOutside => "Invalid argument to Area: stored block lies outside the area"

/-- The wording of an operation error. -/
def OperationError.message : OperationError → String
  | area e => e.message
  | incomparable left right =>
    s!"Invalid argument to compare: cannot order {left} against {right}"
  | lifted detail => s!"Evaluation error: {detail}"

/-- The order of texts; letters that differ in case only are equal. -/
def Text.order (left right : String) : Ordering :=
  if Text.eqIgnoringAsciiCase left right then .eq
  else List.compareLex compare (Text.fold left.toList) (Text.fold right.toList)

namespace Value

/-- The order of two numbers, of which neither may be NaN. -/
def orderNumbers (x y : Float) : Except OperationError Ordering :=
  if x < y then .ok .lt
  else if y < x then .ok .gt
  else if x == y then .ok .eq
  else .error (.incomparable (number x).kind (number y).kind)

/-- Text, truth values and numbers other than NaN. -/
def isOrdered : Value → Bool
  | number value => !value.isNaN
  | text _ => true
  | boolean _ => true
  | _ => false

/-- The place of a scalar's type among the others. -/
def rank : Value → Nat
  | number _ => 0
  | text _ => 1
  | _ => 2

/-- The order of a blank and another scalar. -/
def orderBlank : Value → Except OperationError Ordering
  | blank => .ok .eq
  | missing => .ok .eq
  | boolean value => .ok (if value then .lt else .eq)
  | number value => orderNumbers 0 value
  | text value => .ok (if value.isEmpty then .eq else .lt)
  | other => .error (.incomparable blank.kind other.kind)

/-- The order of two scalars that are no errors. -/
def order (left right : Value) : Except OperationError Ordering :=
  match left, right with
  | blank, other => orderBlank other
  | missing, other => orderBlank other
  | other, blank => (orderBlank other).map Ordering.swap
  | other, missing => (orderBlank other).map Ordering.swap
  | boolean x, boolean y => .ok (compare x y)
  | number x, number y => orderNumbers x y
  | text x, text y => .ok (Text.order x y)
  | _, _ =>
    if left.isOrdered && right.isOrdered then .ok (compare left.rank right.rank)
    else .error (.incomparable left.kind right.kind)

end Value

end Spreadsheet
