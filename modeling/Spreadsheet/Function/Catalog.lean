import Spreadsheet.Function.Aggregate
import Spreadsheet.Function.Date
import Spreadsheet.Function.Scalar

/-! The functions that formulas can call. -/

namespace Spreadsheet

/-- A function. -/
inductive Function where
  | sum
  | product
  | absolute
  | power
  | modulo
  | choose
  | conjunction
  | disjunction
  | negation
  | ifError
  | logicalTrue
  | logicalFalse
  | isBlank
  | isError
  | isOtherError
  | isNotAvailable
  | isNumber
  | isText
  | isLogical
  | notAvailable
  | length
  | upper
  | lower
  | concatenate
  | date
  | year
  | month
  | day
  | daysBetween
  | workingDays
  deriving DecidableEq, Repr

namespace Function

/-- All functions. -/
def all : List Function :=
  [sum, product, absolute, power, modulo, choose, conjunction, disjunction, negation, ifError,
    logicalTrue, logicalFalse, isBlank, isError, isOtherError, isNotAvailable, isNumber, isText,
    isLogical, notAvailable, length, upper, lower, concatenate, date, year, month, day, daysBetween,
    workingDays]

/-- The name that formulas call a function by. -/
def name : Function → String
  | sum => "SUM"
  | product => "PRODUCT"
  | absolute => "ABS"
  | power => "POWER"
  | modulo => "MOD"
  | choose => "IF"
  | conjunction => "AND"
  | disjunction => "OR"
  | negation => "NOT"
  | ifError => "IFERROR"
  | logicalTrue => "TRUE"
  | logicalFalse => "FALSE"
  | isBlank => "ISBLANK"
  | isError => "ISERROR"
  | isOtherError => "ISERR"
  | isNotAvailable => "ISNA"
  | isNumber => "ISNUMBER"
  | isText => "ISTEXT"
  | isLogical => "ISLOGICAL"
  | notAvailable => "NA"
  | length => "LEN"
  | upper => "UPPER"
  | lower => "LOWER"
  | concatenate => "CONCATENATE"
  | date => "DATE"
  | year => "YEAR"
  | month => "MONTH"
  | day => "DAY"
  | daysBetween => "DAYS"
  | workingDays => "NETWORKDAYS"

/-- The least number of arguments. -/
def minArguments : Function → Nat
  | logicalTrue => 0
  | logicalFalse => 0
  | notAvailable => 0
  | power => 2
  | modulo => 2
  | choose => 2
  | ifError => 2
  | daysBetween => 2
  | workingDays => 2
  | date => 3
  | _ => 1

/-- The greatest number of arguments, if there is one. -/
def maxArguments : Function → Option Nat
  | sum => none
  | product => none
  | conjunction => none
  | disjunction => none
  | concatenate => none
  | choose => some 3
  | workingDays => some 3
  | f => some f.minArguments

/-- The function with a name, in any case. -/
def ofName? (text : String) : Option Function :=
  all.find? fun f => f.name == Text.upper text

/-- Calls a function. Arguments beyond the given ones are missing. -/
def apply (f : Function) (ctx : Context) (arguments : List Value) : Outcome :=
  let argument (index : Nat) : Value := (arguments[index]?).getD .missing
  match f with
  | sum => .ok (Aggregate.sum ctx arguments)
  | product => .ok (Aggregate.product ctx arguments)
  | conjunction => .ok (Aggregate.conjunction ctx arguments)
  | disjunction => .ok (Aggregate.disjunction ctx arguments)
  | concatenate => .ok (Aggregate.concatenate ctx arguments)
  | absolute => ctx.lift (argument 0) Scalar.absolute
  | length => ctx.lift (argument 0) Scalar.length
  | upper => ctx.lift (argument 0) Scalar.upper
  | lower => ctx.lift (argument 0) Scalar.lower
  | isBlank => ctx.lift (argument 0) fun value => .boolean (Scalar.isBlank value)
  | isError => ctx.lift (argument 0) fun value => .boolean value.isError
  | isOtherError => ctx.lift (argument 0) fun value => .boolean (Scalar.isOtherError value)
  | isNotAvailable => ctx.lift (argument 0) fun value => .boolean (Scalar.isNotAvailable value)
  | isNumber => ctx.lift (argument 0) fun value => .boolean (Scalar.isNumber value)
  | isText => ctx.lift (argument 0) fun value => .boolean (Scalar.isText value)
  | isLogical => ctx.lift (argument 0) fun value => .boolean (Scalar.isLogical value)
  | power => .ok (Arithmetic.power.evaluate ctx.here (argument 0) (argument 1))
  | modulo => .ok (Scalar.modulo ctx (argument 0) (argument 1))
  | negation => .ok (Scalar.negation ctx (argument 0))
  | choose => .ok (Scalar.choose ctx (argument 0) (argument 1) arguments[2]?)
  | ifError => .ok (Scalar.ifError ctx (argument 0) (argument 1))
  | logicalTrue => .ok (.boolean true)
  | logicalFalse => .ok (.boolean false)
  | notAvailable => .ok (.error .na)
  | date => .ok (DateFunction.date ctx (argument 0) (argument 1) (argument 2))
  | year => .ok (DateFunction.part (·.year) ctx (argument 0))
  | month => .ok (DateFunction.part (·.month) ctx (argument 0))
  | day => .ok (DateFunction.part (·.day) ctx (argument 0))
  | daysBetween => .ok (DateFunction.daysBetween ctx (argument 0) (argument 1))
  | workingDays => .ok (DateFunction.workingDays ctx (argument 0) (argument 1) arguments[2]?)

end Function

end Spreadsheet
