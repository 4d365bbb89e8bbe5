/-! Positions in the grid of a sheet, and how far the grid goes. -/

namespace Spreadsheet

/-- Number of rows of a sheet. -/
def maxRows : Nat := 1048576

/-- Number of columns of a sheet. -/
def maxColumns : Nat := 16384

/-- Rows that a row number can count at all; areas may lie beyond the grid, but not beyond it. -/
def rowLimit : Nat := 0x100000000

/-- Columns that a column number can count at all. -/
def columnLimit : Nat := 0x10000

/-- The place of a cell, counted from zero. -/
structure Position where
  row : Nat
  col : Nat
  deriving DecidableEq, Hashable, Repr, Inhabited

/-- The position lies in the grid of a sheet. -/
def Position.InGrid (p : Position) : Prop :=
  p.row < maxRows ∧ p.col < maxColumns

end Spreadsheet
