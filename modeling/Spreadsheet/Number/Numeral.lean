import Spreadsheet.Number.Decimal
import Spreadsheet.Unicode.WhiteSpace

/-! Decimal numerals: digits with an optional point and an optional exponent. Text that reads
as a number and number literals of formulas share this grammar and the conversion to a double.
-/

namespace Spreadsheet.Number

/-- The nearest double, ties to even; from the largest double on the result is infinite. -/
def Decimal.toFloat (d : Decimal) : Float :=
  Float.ofScientific d.digits (d.exponent < 0) d.exponent.natAbs

namespace Numeral

/-- The number that a run of digits denotes. -/
def digitsValue (cs : List Char) : Nat :=
  cs.foldl (fun value c => 10 * value + (c.toNat - '0'.toNat)) 0

/-- The value of an exponent part: nothing, or a mark, an optional sign and digits. -/
def exponent? : List Char → Option Int
  | [] => some 0
  | mark :: rest =>
    if mark = 'e' || mark = 'E' then
      let (negative, digits) := match rest with
        | '-' :: digits => (true, digits)
        | '+' :: digits => (false, digits)
        | digits => (false, digits)
      if digits.isEmpty || !digits.all Char.isDigit then none
      else some (if negative then -(digitsValue digits : Int) else digitsValue digits)
    else none

/-- Cuts a run of digits off the front of a text. -/
def splitDigits (cs : List Char) : List Char × List Char :=
  (cs.takeWhile Char.isDigit, cs.dropWhile Char.isDigit)

/-- Cuts off what follows a point, if the text starts with one. -/
def splitFraction : List Char → List Char × List Char
  | '.' :: cs => splitDigits cs
  | cs => ([], cs)

/-- Reads a whole text as an unsigned numeral; at least one digit stands before the exponent. -/
def ofChars? (cs : List Char) : Option Decimal :=
  let (whole, rest) := splitDigits cs
  let (fraction, rest) := splitFraction rest
  if whole.isEmpty && fraction.isEmpty then none
  else do
    let exponent ← exponent? rest
    some ⟨digitsValue (whole ++ fraction), exponent - fraction.length⟩

/-- Reads a whole text as an unsigned numeral that a finite double is nearest to. -/
def toFloat? (cs : List Char) : Option Float := do
  let x := (← ofChars? cs).toFloat
  if x.isFinite then some x else none

end Numeral

/-- Reads text as a number: a numeral with an optional sign, and white space around it. -/
def parse? (text : String) : Option Float :=
  match Unicode.trim text.toList with
  | '-' :: cs => (Numeral.toFloat? cs).map (-·)
  | '+' :: cs => Numeral.toFloat? cs
  | cs => Numeral.toFloat? cs

end Spreadsheet.Number
