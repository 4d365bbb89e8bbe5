import Spreadsheet.Book.SheetName
import Spreadsheet.Text.Cut

/-! The sheets in front of a reference: `Sheet1`, `Sheet1:Sheet3`, or `[1]Sheet1` for a sheet of
another workbook.
-/

namespace Spreadsheet

/-- One sheet, or all from the first to the last, of this workbook or of another one. -/
structure SheetRef where
  book : Option Nat := none
  first : String
  last : Option String := none
  deriving DecidableEq, Repr

namespace SheetRef

/-- The greatest workbook index that is written as it is. -/
def maxWrittenBook : Nat := 0x7fffffff

/-- The sheets in formula notation, without the exclamation mark. -/
def text (r : SheetRef) : String :=
  SheetName.writeSpan (r.book.map (min maxWrittenBook)) (some r.first) r.last

/-- Reads a workbook index, with or without a plus sign. -/
def book? (cs : List Char) : Option Nat :=
  let digits := match cs with
    | '+' :: rest => rest
    | _ => cs
  let index := Number.Numeral.digitsValue digits
  if digits.isEmpty || !digits.all Char.isDigit || 0x100000000 ≤ index then none else some index

/-- Reads `first` or `first:last`; neither name may be empty. -/
def span? (book : Option Nat) (cs : List Char) : Option SheetRef :=
  match Text.cutAt ':' cs with
  | ([], _) => none
  | (_, some []) => none
  | (first, last) => some ⟨book, String.ofList first, last.map String.ofList⟩

/-- Reads the sheets of a reference, with an optional workbook index in brackets. -/
def ofChars? : List Char → Option SheetRef
  | '[' :: cs =>
    match Text.cutAt ']' cs with
    | (index, some names) => do span? (some (← book? index)) names
    | (_, none) => none
  | cs => span? none cs

end SheetRef

end Spreadsheet
