/-! The exact value of a finite double, an integer times a power of two, and the conversions
between doubles and integers that rest on it.
-/

namespace Spreadsheet.Number

/-- A finite double read exactly: `mantissa * 2 ^ exponent`, with a sign that zero has too. -/
structure Binary where
  negative : Bool
  mantissa : Nat
  exponent : Int
  deriving DecidableEq, Repr

namespace Binary

/-- The parts of a double's bit pattern; the infinities and NaN have none. -/
def ofFloat? (x : Float) : Option Binary :=
  let bits := x.toBits.toNat
  let field : Nat := (bits >>> 52) % (1 <<< 11)
  let fraction := bits % (1 <<< 52)
  let negative := decide ((1 <<< 63) ≤ bits)
  if field = 2047 then none
  else if field = 0 then some ⟨negative, fraction, -1074⟩
  else some ⟨negative, (1 <<< 52) + fraction, (field : Int) - 1075⟩

/-- The mantissa with its sign. -/
def signed (b : Binary) : Int :=
  if b.negative then -(b.mantissa : Int) else b.mantissa

/-- The magnitude as a quotient of two naturals, the second positive. -/
def ratio (b : Binary) : Nat × Nat :=
  (b.mantissa <<< b.exponent.toNat, 1 <<< (-b.exponent).toNat)

/-- The greatest integer that is not above the value. -/
def floor (b : Binary) : Int :=
  (b.signed <<< b.exponent.toNat).fdiv (1 <<< (-b.exponent).toNat)

/-- The integer part, toward zero. -/
def truncate (b : Binary) : Int :=
  (b.signed <<< b.exponent.toNat).tdiv (1 <<< (-b.exponent).toNat)

end Binary

/-- The greatest whole double that is not above `x`; zeros, infinities and NaN stay as they
are.
-/
def floor (x : Float) : Float :=
  match Binary.ofFloat? x with
  | none => x
  | some b => if b.mantissa = 0 || 0 ≤ b.exponent then x else Float.ofInt b.floor

/-- The integer part of `x` brought into `low..high`; NaN gives zero. -/
def clampToInt (low high : Int) (x : Float) : Int :=
  match Binary.ofFloat? x with
  | some b => max low (min high b.truncate)
  | none => if x.isNaN then 0 else if x < 0 then low else high

end Spreadsheet.Number
