import Spreadsheet.Function.Argument
import Spreadsheet.Value.Operator

/-! Functions of single values: those of one value, which array formulas apply to every cell,
and those that look at the current cell only.
-/

namespace Spreadsheet.Scalar

/-- The magnitude of a number. -/
def absolute (value : Value) : Value :=
  .ofNumber (value.toNumber.map Float.abs)

/-- Number of characters of a text. -/
def length (value : Value) : Value :=
  .ofExcept (value.toText.map fun text => .number (Float.ofNat text.length))

/-- A text in upper case. -/
def upper (value : Value) : Value :=
  .ofExcept (value.toText.map fun text => .text (Text.upper text))

/-- A text in lower case. -/
def lower (value : Value) : Value :=
  .ofExcept (value.toText.map fun text => .text (Text.lower text))

/-- The value is an empty cell. -/
def isBlank : Value → Bool
  | .blank => true
  | _ => false

/-- The value is an error other than `#N/A`. -/
def isOtherError (value : Value) : Bool :=
  value.error?.any (· ≠ .na)

/-- The value is `#N/A`. -/
def isNotAvailable (value : Value) : Bool :=
  value.error? = some .na

/-- The value is a number. -/
def isNumber : Value → Bool
  | .number _ => true
  | _ => false

/-- The value is text. -/
def isText : Value → Bool
  | .text _ => true
  | _ => false

/-- The value is a truth value. -/
def isLogical : Value → Bool
  | .boolean _ => true
  | _ => false

/-- The remainder of a division that rounds down; it has the sign of the divisor. -/
def modulo (ctx : Context) (number divisor : Value) : Value :=
  .ofNumber (do
    let n ← ctx.number number
    let d ← ctx.number divisor
    if d == 0 then throw .div0
    return n - d * Number.floor (n / d))

/-- The opposite of a truth value. -/
def negation (ctx : Context) (argument : Value) : Value :=
  .ofExcept (do
    let value ← ctx.scalar argument
    return .boolean !(← value.toBoolean false))

/-- What a function returns for an argument that it passes on; one that was left out is blank. -/
def passedOn : Value → Value
  | .missing => .blank
  | value => value

/-- Chooses between two arguments by a condition; without a third argument the choice against
the second one is `FALSE`.
-/
def choose (ctx : Context) (condition yes : Value) (no : Option Value) : Value :=
  .ofExcept (do
    let value ← ctx.scalar condition
    if ← value.toBoolean false then return passedOn yes
    else match no with
      | some no => return passedOn no
      | none => return .boolean false)

/-- An argument, or another one in its place if it shows an error at the current cell. -/
def ifError (ctx : Context) (argument fallback : Value) : Value :=
  match ctx.scalar argument with
  | .ok _ => argument
  | .error _ => passedOn fallback

end Spreadsheet.Scalar
