import Spreadsheet.Number.Decimal

/-! How numbers are written: in cells of the General format, in full, and as literals of a
diagnostic text. The three differ in the digits they choose and in how these are laid out.
-/

namespace Spreadsheet.Number

/-- The decimal digits of a natural number. -/
def digitText (n : Nat) : String :=
  String.ofList (Nat.toDigits 10 n)

/-- Zeros in front of the digits of `n` up to the given width. -/
def padded (width n : Nat) : String :=
  let text := digitText n
  String.ofList (List.replicate (width - text.length) '0') ++ text

/-- How chosen digits are laid out. -/
structure Layout where
  /-- The exponents of a leading digit at which the number is written positionally. -/
  positional : Int → Bool
  /-- What follows a number that is written positionally and has no fraction. -/
  wholeMark : String
  /-- What stands between a mantissa and its exponent. -/
  exponentMark : String
  /-- The sign of an exponent that is not negative. -/
  plusSign : String
  /-- The least number of digits of an exponent. -/
  exponentWidth : Nat

namespace Layout

/-- Digits with the point among them, in front of them, or after as many zeros as it takes. -/
def writePositional (layout : Layout) (d : Decimal) : String :=
  let digits := Nat.toDigits 10 d.digits
  let places := (-d.exponent).toNat
  if 0 ≤ d.exponent then
    String.ofList (digits ++ List.replicate d.exponent.toNat '0') ++ layout.wholeMark
  else if places < digits.length then
    String.ofList (digits.take (digits.length - places)) ++ "."
      ++ String.ofList (digits.drop (digits.length - places))
  else
    "0." ++ String.ofList (List.replicate (places - digits.length) '0' ++ digits)

/-- One digit, the rest of them behind a point, and the exponent. -/
def writeScientific (layout : Layout) (d : Decimal) : String :=
  let digits := Nat.toDigits 10 d.digits
  let mantissa := String.ofList (digits.take 1)
    ++ (if digits.length ≤ 1 then "" else "." ++ String.ofList (digits.drop 1))
  let exponent := d.magnitude
  let sign := if exponent < 0 then "-" else layout.plusSign
  mantissa ++ layout.exponentMark ++ sign ++ padded layout.exponentWidth exponent.natAbs

/-- A number's digits, less trailing zeros, in the notation its magnitude asks for. -/
def write (layout : Layout) (negative : Bool) (d : Decimal) : String :=
  let d := d.strip
  (if negative then "-" else "")
    ++ if layout.positional d.magnitude then layout.writePositional d else layout.writeScientific d

end Layout

/-- Cells turn to scientific notation at `1E+15` and below `1E-9`. -/
def generalLayout : Layout :=
  ⟨fun exponent => -9 ≤ exponent && exponent < 15, "", "E", "+", 2⟩

/-- Stored numbers are written out however long they get. -/
def fullLayout : Layout :=
  ⟨fun _ => true, "", "e", "", 1⟩

/-- Literals show that they are no integers, and turn to scientific notation at `1e16` and
below `1e-4`.
-/
def literalLayout : Layout :=
  ⟨fun exponent => -4 ≤ exponent && exponent < 16, ".0", "e", "", 1⟩

/-- A number as a cell of the General format shows it: correctly rounded to 15 significant
digits, and `#NUM!` for the infinities and NaN.
-/
def general (x : Float) : String :=
  match Binary.ofFloat? x with
  | none => "#NUM!"
  | some b =>
    if b.mantissa = 0 then "0"
    else generalLayout.write b.negative (.rounded .even 15 b.ratio.1 b.ratio.2)

/-- The shortest text that reads back as `x`, in a given layout. -/
def shortestText (layout : Layout) (x : Float) : String :=
  match Binary.ofFloat? x with
  | none => if x.isNaN then "NaN" else if x < 0 then "-inf" else "inf"
  | some b => layout.write b.negative (if b.mantissa = 0 then ⟨0, 0⟩ else .shortest b)

/-- A stored number written in full. -/
def full (x : Float) : String :=
  shortestText fullLayout x

/-- A number as a literal of a diagnostic text. -/
def literal (x : Float) : String :=
  shortestText literalLayout x

end Spreadsheet.Number
