import Spreadsheet.Formula.Expr
import Spreadsheet.Number.Format

/-! Formulas as text, with parentheses only where the levels of operators ask for them. Unions
are written with their parentheses and without those of unions inside them.
-/

namespace Spreadsheet.Expr

/-- The level of unary operators in front of their operand. -/
def unaryLevel : Nat := 6

/-- The level of the percent sign, which follows its operand. -/
def percentLevel : Nat := 7

/-- The level of whatever needs no parentheses. -/
def atomLevel : Nat := 8

/-- How tightly the outermost operator of a formula binds. -/
def level : Expr → Nat
  | binary op _ _ => op.level
  | unary .percent _ => percentLevel
  | unary _ _ => unaryLevel
  | _ => atomLevel

/-- The sheets of a reference with their exclamation mark. -/
def sheetChars : Option SheetRef → List Char
  | some sheet => sheet.text.toList ++ ['!']
  | none => []

/-- An operand, in parentheses if it is told to be. -/
def enclosed (parentheses : Bool) (operand : List Char) : List Char :=
  if parentheses then '(' :: operand ++ [')'] else operand

mutual

/-- A formula without the leading equals sign; as a member of a union, another union has no
parentheses of its own.
-/
def chars (member : Bool) : Expr → List Char
  | number value => (Number.general value).toList
  | text value => Text.enclose '"' value.toList
  | boolean value => (Text.ofBool value).toList
  | error e => e.text.toList
  | missing => []
  | cell sheet a => sheetChars sheet ++ a.chars
  | range sheet r => sheetChars sheet ++ r.cornerText.toList
  | name n => n.toList
  | binary op left right =>
    enclosed (left.level < op.level) (left.chars false)
      ++ op.symbol.toList
      ++ enclosed (right.level ≤ op.level) (right.chars false)
  | union left right => enclosed (!member) (left.chars true ++ ',' :: right.chars true)
  | unary .percent operand =>
    enclosed (operand.level < percentLevel) (operand.chars false) ++ ['%']
  | unary op operand =>
    op.symbol.toList ++ enclosed (operand.level < unaryLevel) (operand.chars false)
  | call f arguments => f.toList ++ '(' :: listChars arguments ++ [')']
  | array rows => '\x7b' :: rowsChars rows ++ ['\x7d']

/-- Formulas with commas between them. -/
def listChars : List Expr → List Char
  | [] => []
  | [x] => x.chars false
  | x :: y :: rest => x.chars false ++ ',' :: listChars (y :: rest)

/-- Rows with semicolons between them. -/
def rowsChars : List (List Expr) → List Char
  | [] => []
  | [row] => listChars row
  | row :: next :: rest => listChars row ++ ';' :: rowsChars (next :: rest)

end

/-- A formula without the leading equals sign. -/
def render (e : Expr) : String :=
  String.ofList (e.chars false)

end Spreadsheet.Expr
