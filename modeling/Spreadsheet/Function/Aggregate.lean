import Spreadsheet.Function.Argument

/-! Functions of any number of arguments, each of which may be a whole range. What is typed into
the call is coerced; of the cells of a reference those of the right type count.
-/

namespace Spreadsheet.Aggregate

/-- Collects from all arguments what `direct` makes of a scalar and `stored` of a cell inside a
reference; the first error ends it.
-/
def collect {α : Type} (ctx : Context) (direct stored : Value → Except CellError (Option α))
    (arguments : List Value)
    : Except CellError (List α) := do
  let parts ← arguments.mapM fun argument =>
    match argument.storedCells? with
    | some cells => cells.filterMapM stored
    | none => do return (← direct (← ctx.scalar argument)).toList
  return parts.flatten

/-- The number that a typed argument counts as. -/
def directNumber (value : Value) : Except CellError (Option Float) :=
  value.toNumber.map some

/-- Numbers of a reference count, and errors end it. -/
def storedNumber : Value → Except CellError (Option Float)
  | .number x => .ok (some x)
  | .error e => .error e
  | _ => .ok none

/-- The truth value that a typed argument counts as; a missing one does not count. -/
def directLogical : Value → Except CellError (Option Bool)
  | .missing => .ok none
  | value => (value.toBoolean false).map some

/-- Truth values and numbers of a reference count, and errors end it. -/
def storedLogical : Value → Except CellError (Option Bool)
  | .boolean b => .ok (some b)
  | .number x => .ok (some (x != 0))
  | .error e => .error e
  | _ => .ok none

/-- The numbers of all arguments. -/
def numbers (ctx : Context) (arguments : List Value) : Except CellError (List Float) :=
  collect ctx directNumber storedNumber arguments

/-- The truth values of all arguments, of which there has to be one. -/
def logicals (ctx : Context) (arguments : List Value) : Except CellError (List Bool) := do
  match ← collect ctx directLogical storedLogical arguments with
  | [] => throw .value
  | values => return values

/-- The sum from left to right; without numbers it is the negative zero. -/
def sum (ctx : Context) (arguments : List Value) : Value :=
  .ofNumber ((numbers ctx arguments).map fun xs => xs.foldl (· + ·) (-0.0))

/-- The product from left to right; without numbers it is zero. -/
def product (ctx : Context) (arguments : List Value) : Value :=
  .ofNumber ((numbers ctx arguments).map fun xs =>
    if xs.isEmpty then 0 else xs.foldl (· * ·) 1)

/-- All truth values hold. -/
def conjunction (ctx : Context) (arguments : List Value) : Value :=
  .ofExcept ((logicals ctx arguments).map fun values => .boolean (values.all id))

/-- Some truth value holds. -/
def disjunction (ctx : Context) (arguments : List Value) : Value :=
  .ofExcept ((logicals ctx arguments).map fun values => .boolean (values.any id))

/-- The texts of all arguments joined. -/
def concatenate (ctx : Context) (arguments : List Value) : Value :=
  .ofExcept (do
    let texts ← arguments.mapM fun argument => argument.resolveText ctx.here
    return .text (String.join texts))

end Spreadsheet.Aggregate
