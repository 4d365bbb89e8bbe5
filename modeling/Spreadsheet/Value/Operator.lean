import Spreadsheet.Value.Order

/-! The scalar operators of formulas. Each reduces its operands to what is seen from the current
cell, and an error in an operand is its result, that of the left operand first.
-/

namespace Spreadsheet

/-- The operators on two numbers. -/
inductive Arithmetic where
  | add
  | subtract
  | multiply
  | divide
  | power
  deriving DecidableEq, Repr

/-- The operators that compare. -/
inductive Comparison where
  | equal
  | notEqual
  | less
  | lessEqual
  | greater
  | greaterEqual
  deriving DecidableEq, Repr

/-- The operators on one operand. -/
inductive UnaryOperator where
  | negate
  | plus
  | percent
  deriving DecidableEq, Repr

/-- A power; a negative base with an exponent between -1 and 1 has the root of its magnitude
negated, so that -27 to the power of a third is -3.
-/
def Number.power (base exponent : Float) : Float :=
  if base < 0 && 0 < exponent.abs && exponent.abs < 1 then
    -((-base).pow exponent)
  else
    base.pow exponent

namespace Arithmetic

/-- All arithmetic operators. -/
def all : List Arithmetic :=
  [add, subtract, multiply, divide, power]

/-- The operator as formulas write it. -/
def symbol : Arithmetic → String
  | add => "+"
  | subtract => "-"
  | multiply => "*"
  | divide => "/"
  | power => "^"

/-- The operator applied to two numbers. -/
def apply (op : Arithmetic) (x y : Float) : Except CellError Float :=
  match op with
  | add => .ok (x + y)
  | subtract => .ok (x - y)
  | multiply => .ok (x * y)
  | divide => if y == 0 then .error .div0 else .ok (x / y)
  | power => .ok (Number.power x y)

/-- The operator applied to two arguments. The result is finite, and a zero that is no
difference is positive.
-/
def evaluateNumber (op : Arithmetic) (here : Position) (left right : Value)
    : Except CellError Float := do
  let x ← left.resolveNumber here
  let y ← right.resolveNumber here
  let result ← op.apply x y
  if !result.isFinite then throw .num
  else if result == 0 && op ≠ subtract then return 0
  else return result

/-- The operator applied to two arguments, as a value. -/
def evaluate (op : Arithmetic) (here : Position) (left right : Value) : Value :=
  .ofExcept ((op.evaluateNumber here left right).map .number)

end Arithmetic

namespace Comparison

/-- All comparisons. -/
def all : List Comparison :=
  [equal, notEqual, less, lessEqual, greater, greaterEqual]

/-- The operator as formulas write it. -/
def symbol : Comparison → String
  | equal => "="
  | notEqual => "<>"
  | less => "<"
  | lessEqual => "<="
  | greater => ">"
  | greaterEqual => ">="

/-- The operator accepts an order of its operands. -/
def test : Comparison → Ordering → Bool
  | equal, order => order == .eq
  | notEqual, order => order != .eq
  | less, order => order == .lt
  | lessEqual, order => order != .gt
  | greater, order => order == .gt
  | greaterEqual, order => order != .lt

/-- The operator applied to two arguments. -/
def evaluate (op : Comparison) (here : Position) (left right : Value)
    : Except OperationError Value :=
  match left.resolve here, right.resolve here with
  | .error e, _ => .ok (.error e)
  | _, .error e => .ok (.error e)
  | .ok x, .ok y => (x.order y).map fun order => .boolean (op.test order)

end Comparison

namespace UnaryOperator

/-- All unary operators. -/
def all : List UnaryOperator :=
  [negate, plus, percent]

/-- The operator as formulas write it. -/
def symbol : UnaryOperator → String
  | negate => "-"
  | plus => "+"
  | percent => "%"

/-- The operator applied to a scalar; a plus changes nothing, not even the type. -/
def apply : UnaryOperator → Value → Except CellError Value
  | plus, value => .ok value
  | negate, value => value.toNumber.map fun x => .number (-x)
  | percent, value => value.toNumber.map fun x => .number (x / 100)

/-- The operator applied to an argument. -/
def evaluate (op : UnaryOperator) (here : Position) (argument : Value) : Value :=
  .ofExcept (do op.apply (← argument.resolve here))

end UnaryOperator

/-- Two arguments joined as text. -/
def Value.concat (here : Position) (left right : Value) : Value :=
  .ofExcept (do
    let x ← left.resolveText here
    let y ← right.resolveText here
    return .text (x ++ y))

end Spreadsheet
