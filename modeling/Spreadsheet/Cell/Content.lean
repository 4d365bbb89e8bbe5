import Spreadsheet.Cell.Error
import Spreadsheet.Number.Format

/-! What a cell holds. A formula is kept with the result of its last calculation; nothing here
calculates it anew.
-/

namespace Spreadsheet

/-- The content of a cell. -/
inductive Content where
  | empty
  | boolean (value : Bool)
  | number (value : Float)
  | text (value : String)
  | error (e : CellError)
  /-- A formula that has not been calculated. -/
  | formula (source : String)
  /-- A formula with its last result. -/
  | calculated (source : String) (result : Content)

namespace Content

/-- The content has nothing to store. -/
def isEmpty : Content → Bool
  | empty => true
  | _ => false

/-- What a reader of the cell sees: a formula's result, and nothing before it has one. -/
def effective : Content → Content
  | formula _ => empty
  | calculated _ result => result.effective
  | content => content

/-- A reader of the cell sees an error. -/
def isError (content : Content) : Bool :=
  match content.effective with
  | error _ => true
  | _ => false

/-- The formula in the cell. -/
def source? : Content → Option String
  | formula source => some source
  | calculated source _ => some source
  | _ => none

/-- The kind of a content in diagnostics. -/
def kind : Content → String
  | empty => "empty"
  | boolean _ => "boolean"
  | number _ => "number"
  | text _ => "string"
  | error _ => "error"
  | formula _ => "formula"
  | calculated _ _ => "formula"

/-- The text shown for a content; a formula shows its result, or itself while it has none. -/
def display : Content → String
  | empty => ""
  | boolean value => Text.ofBool value
  | number value => Number.full value
  | text value => value
  | error e => e.text
  | formula source => source
  | calculated _ result => result.display

end Content

end Spreadsheet
