import Spreadsheet.Number.Binary

/-! Decimals, and the two ways of choosing one for a double: so many significant digits, or
the fewest digits that only this double can be meant by.
-/

namespace Spreadsheet.Number

/-- The number `digits * 10 ^ exponent`. -/
structure Decimal where
  digits : Nat
  exponent : Int
  deriving DecidableEq, Repr

/-- Where a value halfway between two candidates goes. -/
inductive Tie where
  | even
  | up

/-- The whole number nearest to `num / den`. -/
def roundDiv (tie : Tie) (num den : Nat) : Nat :=
  let quotient := num / den
  let twice := 2 * (num % den)
  if twice < den then quotient
  else if den < twice then quotient + 1
  else match tie with
    | .even => quotient + quotient % 2
    | .up => quotient + 1

/-- The exponent of the greatest power of ten that is not above a positive `n`. -/
def log10 (n : Nat) : Nat :=
  if n < 10 then 0 else log10 (n / 10) + 1

/-- The exponent of the leading digit of a positive `num / den`. -/
def leadingExponent (num den : Nat) : Int :=
  let shift := log10 den + 1
  (log10 (num * Nat.pow 10 shift / den) : Int) - shift

namespace Decimal

/-- `num / den` counted in units of `10 ^ unit`, again as a quotient. -/
def inUnits (num den : Nat) (unit : Int) : Nat × Nat :=
  (num * Nat.pow 10 (-unit).toNat, den * Nat.pow 10 unit.toNat)

/-- A positive `num / den` rounded to `count` significant digits. -/
def rounded (tie : Tie) (count num den : Nat) : Decimal :=
  let unit := leadingExponent num den - (count - 1 : Nat)
  let (top, bottom) := inUnits num den unit
  let digits := roundDiv tie top bottom
  if digits = Nat.pow 10 count then ⟨Nat.pow 10 (count - 1), unit + 1⟩ else ⟨digits, unit⟩

/-- The reals that a double is the nearest one to, in quarters of its last binary place: they
end halfway to the two neighbours, of which the lower is half as far off at a power of two. The
ends belong to it if the mantissa is even.
-/
structure Neighbourhood where
  low : Nat
  high : Nat
  exponent : Int
  closed : Bool

/-- The neighbourhood of a positive double. -/
def Neighbourhood.of (b : Binary) : Neighbourhood :=
  let gap := if b.mantissa = (1 <<< 52) && -1074 < b.exponent then 1 else 2
  ⟨4 * b.mantissa - gap, 4 * b.mantissa + 2, b.exponent - 2, b.mantissa % 2 == 0⟩

/-- A decimal in the neighbourhood reads back as the double. -/
def Neighbourhood.holds (n : Neighbourhood) (d : Decimal) : Bool :=
  let value := (d.digits * Nat.pow 10 d.exponent.toNat) <<< (-n.exponent).toNat
  let scale := Nat.pow 10 (-d.exponent).toNat <<< n.exponent.toNat
  let low := n.low * scale
  let high := n.high * scale
  if n.closed then low ≤ value && value ≤ high else low < value && value < high

/-- Of the two decimals with `count` digits around a positive double the one that reads back;
the nearer one if both do, and the upper one at equal distance.
-/
def ofLength? (b : Binary) (count : Nat) : Option Decimal :=
  let (num, den) := b.ratio
  let unit := leadingExponent num den - (count - 1 : Nat)
  let (top, bottom) := inUnits num den unit
  let lower : Decimal := ⟨top / bottom, unit⟩
  let upper : Decimal := ⟨top / bottom + 1, unit⟩
  let near := Neighbourhood.of b
  match near.holds lower, near.holds upper with
  | true, true => some (if 2 * (top % bottom) < bottom then lower else upper)
  | true, false => some lower
  | false, true => some upper
  | false, false => none

/-- The shortest decimal that reads back as a positive double; seventeen digits always do. -/
def shortest (b : Binary) : Decimal :=
  match (List.range' 1 17).findSome? (ofLength? b) with
  | some d => d
  | none => rounded .up 17 b.ratio.1 b.ratio.2

/-- The same number without trailing zeros among its digits. -/
def strip (d : Decimal) : Decimal :=
  if h : d.digits ≠ 0 ∧ d.digits % 10 = 0 then strip ⟨d.digits / 10, d.exponent + 1⟩ else d
termination_by d.digits
decreasing_by omega

/-- The exponent of the leading digit. -/
def magnitude (d : Decimal) : Int :=
  log10 d.digits + d.exponent

end Decimal

end Spreadsheet.Number
