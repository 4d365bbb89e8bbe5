import Spreadsheet.Cell.Error
import Spreadsheet.Formula.SheetRef

/-! The tokens of formulas. Text that starts no token is a token of its own, so that scanning
never fails; the grammar has no use for it.
-/

namespace Spreadsheet

/-- A token. -/
inductive Token where
  | number (value : Float)
  | text (value : String)
  | boolean (value : Bool)
  | error (e : CellError)
  /-- A name of a function or a defined name. -/
  | identifier (name : String)
  /-- What has the shape of an address. -/
  | cell (value : String)
  /-- The sheets of a reference with their exclamation mark. -/
  | sheet (sheet : SheetRef)
  | plus
  | minus
  | star
  | slash
  | caret
  | percent
  | ampersand
  | equal
  | notEqual
  | less
  | lessEqual
  | greater
  | greaterEqual
  | colon
  | comma
  | semicolon
  | leftParen
  | rightParen
  | leftBrace
  | rightBrace
  /-- What could not be read. -/
  | invalid (value : String)

namespace Token

/-- The constructor of an error as diagnostics name it. -/
def errorName : CellError → String
  | .null => "Null"
  | .div0 => "Div0"
  | .value => "Value"
  | .ref => "Ref"
  | .name => "Name"
  | .num => "Num"
  | .na => "Na"
  | .gettingData => "GettingData"
  | .spill => "Spill"
  | .calculation => "Calc"

/-- A value that may be absent, as diagnostics write it. -/
def optional (show? : α → String) : Option α → String
  | some value => "Some(" ++ show? value ++ ")"
  | none => "None"

/-- Sheets as diagnostics write them. -/
def sheetDiagnostic (r : SheetRef) : String :=
  "SheetReference \x7b workbook_index: " ++ optional Number.digitText r.book
    ++ ", first_sheet: " ++ Text.diagnostic r.first
    ++ ", last_sheet: " ++ optional Text.diagnostic r.last ++ " \x7d"

/-- A token as diagnostics write it. -/
def diagnostic : Token → String
  | number value => "Number(" ++ Number.literal value ++ ")"
  | text value => "String(" ++ Text.diagnostic value ++ ")"
  | boolean value => "Boolean(" ++ (if value then "true" else "false") ++ ")"
  | error e => "Error(" ++ errorName e ++ ")"
  | identifier name => "Identifier(" ++ Text.diagnostic name ++ ")"
  | cell value => "CellRef(" ++ Text.diagnostic value ++ ")"
  | sheet r => "SheetRef(" ++ sheetDiagnostic r ++ ")"
  | plus => "Plus"
  | minus => "Minus"
  | star => "Star"
  | slash => "Slash"
  | caret => "Caret"
  | percent => "Percent"
  | ampersand => "Ampersand"
  | equal => "Equal"
  | notEqual => "NotEqual"
  | less => "LessThan"
  | lessEqual => "LessEqual"
  | greater => "GreaterThan"
  | greaterEqual => "GreaterEqual"
  | colon => "Colon"
  | comma => "Comma"
  | semicolon => "Semicolon"
  | leftParen => "LeftParen"
  | rightParen => "RightParen"
  | leftBrace => "LeftBrace"
  | rightBrace => "RightBrace"
  | invalid value => "Invalid(" ++ Text.diagnostic value ++ ")"

/-- The token in front, or the end of the formula, as diagnostics write it. -/
def diagnosticOrEnd : Option Token → String
  | some token => token.diagnostic
  | none => "Eof"

end Token

end Spreadsheet
