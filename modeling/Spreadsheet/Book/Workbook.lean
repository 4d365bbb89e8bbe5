import Spreadsheet.Book.DefinedName
import Spreadsheet.Book.Sheet
import Spreadsheet.Book.SheetName
import Spreadsheet.Date.Serial

/-! Workbooks: sheets in order, defined names and the date system. -/

namespace Spreadsheet

/-- Why a workbook cannot be changed in a certain way. -/
inductive WorkbookError where
  | sheetOutOfBounds (index count : Nat)
  | sheetName (error : SheetNameError)
  | definedName (error : DefinedNameError)
  deriving DecidableEq, Repr

/-- The wording of a sheet name error. -/
def SheetNameError.message : SheetNameError → String
  | .empty => "Invalid sheet name: Sheet name cannot be empty"
  | .tooLong =>
    s!"Invalid sheet name: Sheet name too long (max {Number.digitText SheetName.maxLength} characters)"
  | .forbidden c => "Invalid sheet name: Sheet name cannot contain '" ++ c.toString ++ "'"
  | .apostrophe => "Invalid sheet name: Sheet name cannot begin or end with an apostrophe"
  | .duplicate name => s!"Sheet name already exists: {name}"

/-- The wording of a workbook error. -/
def WorkbookError.message : WorkbookError → String
  | .sheetOutOfBounds index count =>
    s!"Sheet index {Number.digitText index} out of bounds (count: {Number.digitText count})"
  | .sheetName error => error.message
  | .definedName error => error.message

/-- A workbook. -/
structure Workbook where
  sheets : List Sheet
  names : NameTable
  dates : DateSystem

namespace Workbook

/-- A workbook without sheets. -/
def empty : Workbook :=
  ⟨[], .empty, .from1900⟩

/-- A workbook with one blank sheet. -/
def new : Workbook :=
  { empty with sheets := [.blank "Sheet1"] }

/-- The place of the sheet with a name, in any case. -/
def sheetIndex? (book : Workbook) (name : String) : Option Nat :=
  book.sheets.findIdx? fun sheet => Text.lower sheet.name == Text.lower name

/-- What is wrong with a name for the sheet at `own`, or for a new one. -/
def nameFault? (book : Workbook) (name : String) (own : Option Nat) : Option SheetNameError :=
  match SheetName.fault? name with
  | some fault => some fault
  | none => match book.sheetIndex? name with
    | some index => if some index = own then none else some (.duplicate name)
    | none => none

/-- Refuses a name that has a fault. -/
def checkName (book : Workbook) (name : String) (own : Option Nat) : Except WorkbookError Unit :=
  match book.nameFault? name own with
  | some fault => .error (.sheetName fault)
  | none => .ok ()

/-- Refuses an index that no sheet has. -/
def checkIndex (book : Workbook) (index : Nat) : Except WorkbookError Unit :=
  if book.sheets.length ≤ index then .error (.sheetOutOfBounds index book.sheets.length)
  else .ok ()

/-- The name of the sheet with a number. -/
def numberedName (n : Nat) : String :=
  "Sheet" ++ Number.digitText n

/-- The first of `tries + 1` numbered names from `n` on that no sheet has. -/
def freeNameFrom (book : Workbook) (n : Nat) : Nat → String
  | 0 => numberedName n
  | tries + 1 =>
    if (book.sheetIndex? (numberedName n)).isNone then numberedName n
    else book.freeNameFrom (n + 1) tries

/-- The first numbered name that no sheet has, with a number above that of the sheets; as many
tries as there are sheets are enough.
-/
def freeName (book : Workbook) : String :=
  book.freeNameFrom (book.sheets.length + 1) book.sheets.length

namespace InPlace

/-- Adds a blank sheet at the end. -/
def addSheet (name : String) : Mutation WorkbookError Workbook Unit := do
  (← get).checkName name none
  modify fun book => { book with sheets := book.sheets ++ [.blank name] }

/-- Adds a blank sheet with a numbered name. -/
def addNumberedSheet : Mutation WorkbookError Workbook Unit := do
  addSheet (← get).freeName

/-- Gives a sheet another name; its own name in another spelling is no duplicate. -/
def renameSheet (index : Nat) (name : String) : Mutation WorkbookError Workbook Unit := do
  (← get).checkIndex index
  (← get).checkName name (some index)
  modify fun book =>
    { book with sheets := book.sheets.modify index fun sheet => { sheet with name } }

end InPlace

/-- The workbook with a blank sheet added at the end. -/
def addSheet (book : Workbook) (name : String) : Except WorkbookError Workbook :=
  (InPlace.addSheet name).result book

/-- The workbook with a blank sheet added that has a numbered name. -/
def addNumberedSheet (book : Workbook) : Except WorkbookError Workbook :=
  InPlace.addNumberedSheet.result book

/-- The workbook with another name for a sheet. -/
def renameSheet (book : Workbook) (index : Nat) (name : String)
    : Except WorkbookError Workbook :=
  (InPlace.renameSheet index name).result book

/-- Replaces a sheet of the workbook, whose name stays the same. -/
def setSheet (book : Workbook) (index : Nat) (sheet : Sheet) : Workbook :=
  { book with
    sheets := book.sheets.modify index fun old => { sheet with name := old.name } }

/-- Defines a name; a name for one sheet needs a sheet that exists. -/
def defineName (book : Workbook) (name text : String) (scope : Scope)
    : Except WorkbookError Workbook := do
  match scope with
  | .sheet index =>
    if book.sheets.length ≤ index then throw (.sheetOutOfBounds index book.sheets.length)
  | .workbook => pure ()
  let names ← (book.names.define (.ofText name text scope)).mapError .definedName
  return { book with names }

end Workbook

end Spreadsheet
