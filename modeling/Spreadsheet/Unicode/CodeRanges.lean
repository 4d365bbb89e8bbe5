/-! Sets of characters given by intervals of code points, the form in which the character
properties of Unicode 17 are tabulated here.
-/

namespace Spreadsheet.Unicode

/-- An ascending list of disjoint intervals of code points, both ends included. -/
abbrev CodeRanges := List (Nat × Nat)

/-- A character is in the set if one of the intervals holds its code point. -/
def CodeRanges.contains (ranges : CodeRanges) (c : Char) : Bool :=
  ranges.any fun (first, last) => first ≤ c.toNat && c.toNat ≤ last

end Spreadsheet.Unicode
