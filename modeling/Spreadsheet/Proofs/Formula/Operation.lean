import Spreadsheet.Proofs.Formula.Subformula

/-! Formulas of literals, references and operators only, and formulas with other formulas put in
place of their ranges.
-/

namespace Spreadsheet.Expr

/-- A formula of literals, references and operators, without names, calls, unions and array
constants.
-/
inductive IsOperation : Expr → Prop where
  | number (value : Float) : IsOperation (.number value)
  | text (value : String) : IsOperation (.text value)
  | boolean (value : Bool) : IsOperation (.boolean value)
  | error (e : CellError) : IsOperation (.error e)
  | missing : IsOperation .missing
  | cell (sheet : Option SheetRef) (a : Address) : IsOperation (.cell sheet a)
  | range (sheet : Option SheetRef) (r : Range) : IsOperation (.range sheet r)
  | binary (op : BinaryOperator) {left right : Expr} (hl : left.IsOperation)
      (hr : right.IsOperation) : IsOperation (.binary op left right)
  | unary (op : UnaryOperator) {operand : Expr} (h : operand.IsOperation)
      : IsOperation (.unary op operand)

mutual

/-- A formula with another one put in place of each range. -/
def mapRanges (f : Option SheetRef → Range → Expr) : Expr → Expr
  | range sheet r => f sheet r
  | binary op left right => binary op (mapRanges f left) (mapRanges f right)
  | union left right => union (mapRanges f left) (mapRanges f right)
  | unary op operand => unary op (mapRanges f operand)
  | call function arguments => call function (mapRangesList f arguments)
  | array rows => array (mapRangesRows f rows)
  | e => e

/-- A list of formulas with another one put in place of each range. -/
def mapRangesList (f : Option SheetRef → Range → Expr) : List Expr → List Expr
  | [] => []
  | e :: rest => mapRanges f e :: mapRangesList f rest

/-- Rows of formulas with another one put in place of each range. -/
def mapRangesRows (f : Option SheetRef → Range → Expr) : List (List Expr) → List (List Expr)
  | [] => []
  | row :: rest => mapRangesList f row :: mapRangesRows f rest

end

variable {f : Option SheetRef → Range → Expr} {left right operand part : Expr}

theorem contains_binary {op : BinaryOperator}
    : (binary op left right).Contains part
      ↔ part = binary op left right ∨ left.Contains part ∨ right.Contains part := by
  rw [contains_iff]
  simp [children]

theorem contains_unary {op : UnaryOperator}
    : (unary op operand).Contains part ↔ part = unary op operand ∨ operand.Contains part := by
  rw [contains_iff]
  simp [children]

theorem contains_leaf {leaf : Expr} (h : leaf.children = [])
    : leaf.Contains part ↔ part = leaf := by
  rw [contains_iff, h]
  simp

theorem contains_binary_leaves {op : BinaryOperator} (hl : left.children = [])
    (hr : right.children = [])
    : (binary op left right).Contains part
      ↔ part = binary op left right ∨ part = left ∨ part = right := by
  rw [contains_binary, contains_leaf hl, contains_leaf hr]

end Spreadsheet.Expr
