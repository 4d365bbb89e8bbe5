import Spreadsheet.Evaluation.Error
import Spreadsheet.Evaluation.Reference
import Spreadsheet.Function.Catalog

/-! Evaluation of formulas: by recursion on the tree, and for defined names, whose text may be of
any size, on the number of names that may still be followed inside one another.
-/

namespace Spreadsheet

/-- An evaluation gives a value unless it fails. -/
abbrev Evaluation := Except EvalError

/-- The value of a binary operator on two values. -/
def BinaryOperator.evaluate (op : BinaryOperator) (here : Position) (left right : Value)
    : Outcome :=
  match op with
  | arithmetic op => .ok (op.evaluate here left right)
  | comparison op => op.evaluate here left right
  | concat => .ok (.concat here left right)

namespace Context

/-- Applies a binary operator, to each pair of cells in an array formula. -/
def binary (ctx : Context) (op : BinaryOperator) (left right : Value) : Outcome :=
  if ctx.arrayMode then Broadcast.lift₂ ctx.here left right (op.evaluate ctx.here)
  else op.evaluate ctx.here left right

/-- Applies a unary operator, to each cell in an array formula. -/
def unary (ctx : Context) (op : UnaryOperator) (operand : Value) : Outcome :=
  if ctx.arrayMode then
    Broadcast.lift₁ ctx.here operand fun value => .ok (op.evaluate ctx.here value)
  else
    .ok (op.evaluate ctx.here operand)

/-- Calls the function with a name, if it takes that many arguments. -/
def checkCall (name : String) (count : Nat) : Evaluation Function :=
  match Function.ofName? name with
  | none => .error (.unknownFunction name)
  | some f =>
    if count < f.minArguments then .error (.tooFewArguments name f.minArguments count)
    else match f.maxArguments with
      | some most => if most < count then .error (.tooManyArguments name most count) else .ok f
      | none => .ok f

end Context

namespace Expr

/-- The areas that a value is made of. -/
def areasOf : Value → Except CellError (List (Area Value))
  | .area a => .ok [a]
  | .union areas => .ok areas
  | .error e => .error e
  | _ => .error .value

/-- A value as an element of an array constant. -/
def element (value : Value) : Value :=
  if value.isScalar then value else .error .value

/-- The areas that a formula refers to as a member of a union: those of a reference as such, even
if it covers a single cell, and else those of its value.
-/
def memberAreas (ctx : Context) (member : Expr) (value : Unit → Evaluation Value)
    : Evaluation (Except CellError (List (Area Value))) :=
  match member with
  | cell sheet a => (ctx.areas sheet (.single a)).run.mapError fun e => .operation (.area e)
  | range sheet r => (ctx.areas sheet r).run.mapError fun e => .operation (.area e)
  | _ => (value ()).map areasOf

mutual

/-- The value of a formula, given the values of defined names. -/
def eval (names : String → Evaluation Value) (ctx : Context) : Expr → Evaluation Value
  | number value => .ok (.number value)
  | text value => .ok (.text value)
  | boolean value => .ok (.boolean value)
  | error e => .ok (.error e)
  | missing => .ok .missing
  | cell sheet a => (ctx.cellValue sheet a).mapError fun e => .operation (.area e)
  | range sheet r => (ctx.rangeValue sheet r).mapError fun e => .operation (.area e)
  | name n => names n
  | binary op left right => do
    let l ← left.eval names ctx
    let r ← right.eval names ctx
    (ctx.binary op l r).mapError .operation
  | union left right => do
    match ← memberAreas ctx left fun _ => left.eval names ctx with
    | .error e => return .error e
    | .ok areas =>
      match ← memberAreas ctx right fun _ => right.eval names ctx with
      | .error e => return .error e
      | .ok more => return .union (areas ++ more)
  | unary op operand => do
    let value ← operand.eval names ctx
    (ctx.unary op value).mapError .operation
  | call f arguments => do
    let function ← Context.checkCall f arguments.length
    let values ← evalList names ctx arguments
    (function.apply ctx values).mapError .operation
  | array rows => do
    let values ← evalRows names ctx rows
    match Area.ofRows ctx.here values with
    | .ok a => return .area a
    | .error e => throw (.operation (.area e))

/-- The values of a list of formulas. -/
def evalList (names : String → Evaluation Value) (ctx : Context)
    : List Expr → Evaluation (List Value)
  | [] => .ok []
  | e :: rest => do
    let value ← e.eval names ctx
    return value :: (← evalList names ctx rest)

/-- The values of the elements of an array constant. -/
def evalRows (names : String → Evaluation Value) (ctx : Context)
    : List (List Expr) → Evaluation (List (List Value))
  | [] => .ok []
  | row :: rest => do
    let values ← evalList names ctx row
    return values.map element :: (← evalRows names ctx rest)

end

end Expr

/-- How many defined names may be followed inside one another. -/
def maxNameDepth : Nat := 32

namespace Context

/-- The definition of a name as the formula sees it. -/
def definition? (ctx : Context) (name : String) : Option DefinedName :=
  ctx.book.bind fun book => book.names.get? name ctx.sheet

/-- The value of a defined name, with at most `depth` names followed inside one another; an
unknown name is `#NAME?`.
-/
def nameValue (ctx : Context) : Nat → String → Evaluation Value
  | 0, name =>
    match ctx.definition? name with
    | none => .ok (.error .name)
    | some _ => .error .circularReference
  | depth + 1, name =>
    match ctx.definition? name with
    | none => .ok (.error .name)
    | some d => do
      let e ← (Expr.parse d.formula).mapError .parse
      e.eval (ctx.nameValue depth) ctx

/-- The value of a formula, with at most `depth` names followed inside one another. -/
def evaluateWithin (ctx : Context) (depth : Nat) (e : Expr) : Evaluation Value :=
  e.eval (ctx.nameValue depth) ctx

/-- The value of a formula. -/
def evaluate (ctx : Context) (e : Expr) : Evaluation Value :=
  ctx.evaluateWithin maxNameDepth e

/-- The value that a cell shows: that of an array formula as a whole, and of any other what is
seen of it from the cell.
-/
def shown (ctx : Context) (value : Value) : Value :=
  if ctx.arrayMode then value else .ofExcept (value.resolve ctx.here)

/-- Reads a formula and evaluates it for the cell that it stands in. -/
def evaluateFormula (ctx : Context) (text : String) : Evaluation Value := do
  let e ← (Expr.parse text).mapError .parse
  return ctx.shown (← ctx.evaluate e)

end Context

end Spreadsheet
