import Spreadsheet.Grid.Position
import Spreadsheet.Number.Numeral
import Spreadsheet.Number.Format

/-! Addresses in A1 notation: column letters, a row number counted from one, and a `$` in front
of each part that is absolute.
-/

namespace Spreadsheet

/-- Why a text is no address. -/
inductive AddressError where
  | noColumn (text : String)
  | malformedRow (text : String)
  | rowZero (text : String)
  | emptyColumn
  | notALetter (c : Char)
  | rowOutOfBounds (row : Nat)
  | columnOutOfBounds (col : Nat)
  deriving DecidableEq, Repr

/-- The wording of an address error. -/
def AddressError.message : AddressError → String
  | .noColumn text => s!"Invalid cell address: no column letters in '{text}'"
  | .malformedRow text => s!"Invalid cell address: invalid row number in '{text}'"
  | .rowZero text => s!"Invalid cell address: row number must be >= 1 in '{text}'"
  | .emptyColumn => "Invalid cell address: empty column letters"
  | .notALetter c => "Invalid cell address: invalid column letter '" ++ c.toString ++ "'"
  | .rowOutOfBounds row =>
    s!"Row index {Number.digitText row} out of bounds (max: {Number.digitText (maxRows - 1)})"
  | .columnOutOfBounds col =>
    s!"Column index {Number.digitText col} out of bounds (max: {Number.digitText (maxColumns - 1)})"

namespace Column

/-- The capital letter of a digit in base 26. -/
def letter (n : Nat) : Char :=
  Char.ofNat ('A'.toNat + n)

/-- The letters of a column: `A` to `Z`, then `AA` and so on, with no digit for zero. -/
def letters (col : Nat) : List Char :=
  if col < 26 then [letter col] else letters (col / 26 - 1) ++ [letter (col % 26)]

/-- What a letter counts, from one. -/
def letterValue (c : Char) : Nat :=
  c.toUpper.toNat - 'A'.toNat + 1

/-- Reads letters on from a column number counted from one; the first fault from the left is
reported.
-/
def ofLettersFrom (value : Nat) : List Char → Except AddressError Nat
  | [] => .ok value
  | c :: rest =>
    if !c.isAlpha then .error (.notALetter c)
    else
      let next := value * 26 + letterValue c
      if maxColumns < next then .error (.columnOutOfBounds (next - 1))
      else ofLettersFrom next rest

/-- The column that letters of either case stand for. -/
def ofLetters (cs : List Char) : Except AddressError Nat :=
  if cs.isEmpty then .error .emptyColumn
  else (ofLettersFrom 0 cs).map (· - 1)

end Column

/-- An address: a position, and which of its parts are absolute. -/
structure Address where
  row : Nat
  col : Nat
  rowAbsolute : Bool := false
  colAbsolute : Bool := false
  deriving DecidableEq, Repr

namespace Address

/-- The position addressed. -/
def position (a : Address) : Position :=
  ⟨a.row, a.col⟩

/-- The relative address of a position. -/
def ofPosition (p : Position) : Address :=
  { row := p.row, col := p.col }

/-- Cuts off a leading `$` and tells whether there was one. -/
def splitMark : List Char → Bool × List Char
  | '$' :: cs => (true, cs)
  | cs => (false, cs)

/-- The row that a row number stands for, in the address `text`. -/
def parseRow (text : String) (digits : List Char) : Except AddressError Nat :=
  if digits.isEmpty || !digits.all Char.isDigit then .error (.malformedRow text)
  else
    let number := Number.Numeral.digitsValue digits
    if rowLimit ≤ number then .error (.malformedRow text)
    else if number = 0 then .error (.rowZero text)
    else if maxRows < number then .error (.rowOutOfBounds (number - 1))
    else .ok (number - 1)

/-- Reads an address with white space around it. -/
def parse (text : String) : Except AddressError Address := do
  let cs := Unicode.trim text.toList
  let trimmed := String.ofList cs
  let (colAbsolute, cs) := splitMark cs
  let letters := cs.takeWhile Char.isAlpha
  if letters.isEmpty then throw (.noColumn trimmed)
  let col ← Column.ofLetters letters
  let (rowAbsolute, digits) := splitMark (cs.dropWhile Char.isAlpha)
  let row ← parseRow trimmed digits
  return { row, col, rowAbsolute, colAbsolute }

/-- The characters of an address in A1 notation. -/
def chars (a : Address) : List Char :=
  (if a.colAbsolute then ['$'] else []) ++ Column.letters a.col
    ++ (if a.rowAbsolute then ['$'] else []) ++ Nat.toDigits 10 (a.row + 1)

/-- An address in A1 notation. -/
def text (a : Address) : String :=
  String.ofList a.chars

end Address

end Spreadsheet
