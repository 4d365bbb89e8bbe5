import Spreadsheet.Book.Workbook
import Spreadsheet.Date.Text

/-! Where a formula is evaluated. -/

namespace Spreadsheet

/-- The workbook that a formula reads, if any, the cell it stands in, whether it is an array
formula, in which operators work on whole areas instead of what the current cell sees of them, and
the year in which it is evaluated.
-/
structure Context where
  book : Option Workbook := none
  sheet : Nat := 0
  here : Position := ⟨0, 0⟩
  arrayMode : Bool := false
  year : Int := DateText.defaultYear

/-- The date system of the workbook. -/
def Context.dates (ctx : Context) : DateSystem :=
  match ctx.book with
  | some book => book.dates
  | none => .from1900

end Spreadsheet
