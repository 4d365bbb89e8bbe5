import Spreadsheet.Formula.SheetRef
import Spreadsheet.Grid.Range
import Spreadsheet.Value.Operator

/-! Formulas as trees. -/

namespace Spreadsheet

/-- The operators between two operands, other than the one that forms unions. -/
inductive BinaryOperator where
  | arithmetic (op : Arithmetic)
  | comparison (op : Comparison)
  | concat
  deriving DecidableEq, Repr

namespace BinaryOperator

/-- The operator as formulas write it. -/
def symbol : BinaryOperator → String
  | arithmetic op => op.symbol
  | comparison op => op.symbol
  | concat => "&"

/-- How tightly an operator binds; operators of one level group to the left. -/
def level : BinaryOperator → Nat
  | comparison _ => 1
  | concat => 2
  | arithmetic .add => 3
  | arithmetic .subtract => 3
  | arithmetic .multiply => 4
  | arithmetic .divide => 4
  | arithmetic .power => 5

end BinaryOperator

/-- A formula. -/
inductive Expr where
  | number (value : Float)
  | text (value : String)
  | boolean (value : Bool)
  | error (e : CellError)
  /-- An argument that was left out. -/
  | missing
  | cell (sheet : Option SheetRef) (address : Address)
  | range (sheet : Option SheetRef) (range : Range)
  | name (name : String)
  | binary (op : BinaryOperator) (left right : Expr)
  | union (left right : Expr)
  | unary (op : UnaryOperator) (operand : Expr)
  | call (function : String) (arguments : List Expr)
  /-- An array constant by rows. -/
  | array (rows : List (List Expr))

namespace Expr

mutual

/-- Two formulas are equal, with numbers compared as `==` has it. -/
def beq : Expr → Expr → Bool
  | number x, number y => x == y
  | text x, text y => x == y
  | boolean x, boolean y => x == y
  | error x, error y => x == y
  | missing, missing => true
  | cell sheet a, cell sheet' a' => sheet == sheet' && a == a'
  | range sheet r, range sheet' r' => sheet == sheet' && r == r'
  | name x, name y => x == y
  | binary op l r, binary op' l' r' => op == op' && beq l l' && beq r r'
  | union l r, union l' r' => beq l l' && beq r r'
  | unary op x, unary op' x' => op == op' && beq x x'
  | call f xs, call f' xs' => f == f' && beqList xs xs'
  | array rows, array rows' => beqRows rows rows'
  | _, _ => false

/-- Two lists of formulas are equal. -/
def beqList : List Expr → List Expr → Bool
  | [], [] => true
  | x :: xs, y :: ys => beq x y && beqList xs ys
  | _, _ => false

/-- Two lists of rows are equal. -/
def beqRows : List (List Expr) → List (List Expr) → Bool
  | [], [] => true
  | xs :: rows, ys :: rows' => beqList xs ys && beqRows rows rows'
  | _, _ => false

end

instance : BEq Expr := ⟨beq⟩

end Expr

end Spreadsheet
