import Spreadsheet.Formula.Parse
import Spreadsheet.Value.Order

/-! Why a formula has no value, not even an error value. -/

namespace Spreadsheet

/-- A failure to evaluate. -/
inductive EvalError where
  | parse (e : ParseError)
  | operation (e : OperationError)
  | unknownFunction (name : String)
  | tooFewArguments (function : String) (least actual : Nat)
  | tooManyArguments (function : String) (most actual : Nat)
  /-- Defined names refer to one another more deeply than is followed. -/
  | circularReference

/-- The wording of a failure. -/
def EvalError.message : EvalError → String
  | parse e => e.message
  | operation e => e.message
  | unknownFunction name => s!"Unknown function: {name}"
  | tooFewArguments f least actual =>
    s!"Wrong number of arguments for {f}: expected at least {Number.digitText least}, "
      ++ s!"got {Number.digitText actual}"
  | tooManyArguments f most actual =>
    s!"Wrong number of arguments for {f}: expected at most {Number.digitText most}, "
      ++ s!"got {Number.digitText actual}"
  | circularReference => "Circular reference detected"

end Spreadsheet
