import Spreadsheet.Grid.Address
import Spreadsheet.Text.Case
import Spreadsheet.Text.Quoted

/-! Names of sheets: which ones are allowed, and how formulas write them. A name is written
bare if nothing else could be meant by it, and in single quotes otherwise.
-/

namespace Spreadsheet

/-- Why a sheet cannot be given a name. -/
inductive SheetNameError where
  | empty
  | tooLong
  | forbidden (c : Char)
  | apostrophe
  | duplicate (name : String)
  deriving DecidableEq, Repr

namespace SheetName

/-- The greatest number of characters of a sheet name. -/
def maxLength : Nat := 31

/-- Characters that no sheet name holds. -/
def forbidden : List Char :=
  [':', '\\', '/', '?', '*', '[', ']']

/-- What is wrong with a name, whatever the other sheets are called. -/
def fault? (name : String) : Option SheetNameError :=
  let cs := name.toList
  if cs.isEmpty then some .empty
  else if maxLength < cs.length then some .tooLong
  else match cs.find? (forbidden.contains ·) with
    | some c => some (.forbidden c)
    | none =>
      if cs.head? = some '\'' || cs.getLast? = some '\'' then some .apostrophe else none

/-- The greatest column, `IV`, and row that a bare name must not look like an address of. -/
def lookalikeLimit : Position :=
  ⟨65536, 255⟩

/-- One or two letters up to `IV`, then digits from 1 to 65536. -/
def looksLikeCell (name : String) : Bool :=
  let letters := name.toList.takeWhile Char.isAlpha
  let digits := name.toList.dropWhile Char.isAlpha
  if letters.isEmpty || digits.isEmpty || !digits.all Char.isDigit || 2 < letters.length then false
  else
    let row := Number.Numeral.digitsValue digits
    match Column.ofLetters letters with
    | .ok col => col ≤ lookalikeLimit.col && 1 ≤ row && row ≤ lookalikeLimit.row
    | .error _ => false

/-- `TRUE` or `FALSE` in any case. -/
def looksLikeBoolean (name : String) : Bool :=
  (Text.boolean? name).isSome

/-- The characters of bare names. -/
def isBareChar (c : Char) : Bool :=
  c.isAlphanum || c = '_'

/-- The name has to be quoted in a formula. -/
def needsQuotes (name : String) : Bool :=
  match name.toList with
  | [] => true
  | first :: rest =>
    first.isDigit || !(first :: rest).all isBareChar || looksLikeBoolean name || looksLikeCell name

/-- What stands for a sheet that is gone. -/
def deleted : String := "#REF"

/-- The sheets from `first` to `last` in formula notation: `[index]first:last`, all of it in one
pair of quotes if either name needs them. Sheets of the workbook itself have no index.
-/
def writeSpan (index : Option Nat) (first last : Option String) : String :=
  let quoted := first.any needsQuotes || last.any needsQuotes
  let write (name : String) : List Char :=
    if quoted then Text.double '\'' name.toList else name.toList
  let quote : List Char := if quoted then ['\''] else []
  let book : List Char := match index with
    | some n => '[' :: Nat.toDigits 10 n ++ [']']
    | none => []
  let rest : List Char := match last with
    | some name => ':' :: write name
    | none => []
  String.ofList (quote ++ book ++ write (first.getD deleted) ++ rest ++ quote)

/-- One sheet of the workbook itself in formula notation. -/
def write (name : Option String) : String :=
  writeSpan none name none

end SheetName

end Spreadsheet
