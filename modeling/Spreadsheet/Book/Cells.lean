import Std.Data.TreeMap
import Spreadsheet.Cell.Content
import Spreadsheet.Grid.Range

/-! The contents of a grid, sparse and row by row, so that rows without contents take no room. -/

namespace Spreadsheet

/-- The contents of each row by their columns, of those rows that have any. -/
structure Cells where
  rows : Std.TreeMap Nat (Std.TreeMap Nat Content)
  occupied : ∀ (i : Nat) (row : Std.TreeMap Nat Content), rows[i]? = some row → row.isEmpty = false

namespace Cells

/-- No contents. -/
def empty : Cells where
  rows := ∅
  occupied i row found := by simp at found

instance : EmptyCollection Cells := ⟨empty⟩

/-- What is kept at a position. -/
def get? (cells : Cells) (p : Position) : Option Content := do
  (← cells.rows[p.row]?)[p.col]?

instance : Membership Position Cells := ⟨fun cells p => (cells.get? p).isSome⟩

/-- Keeps a content at a position, in a new row if there is none yet. -/
def insert (cells : Cells) (p : Position) (content : Content) : Cells where
  rows := cells.rows.insert p.row ((cells.rows.getD p.row ∅).insert p.col content)
  occupied i row found := by
    rw [Std.TreeMap.getElem?_insert] at found
    split at found
    · cases found
      exact Std.TreeMap.isEmpty_insert
    · exact cells.occupied i row found

/-- Drops what is kept at a position, and with the last content of a row the row. -/
def erase (cells : Cells) (p : Position) : Cells :=
  match cells.rows[p.row]? with
  | none => cells
  | some row =>
    if isLast : (row.erase p.col).isEmpty then
      { rows := cells.rows.erase p.row
        occupied := fun i row found => by
          rw [Std.TreeMap.getElem?_erase] at found
          split at found
          · cases found
          · exact cells.occupied i row found }
    else
      { rows := cells.rows.insert p.row (row.erase p.col)
        occupied := fun i row found => by
          rw [Std.TreeMap.getElem?_insert] at found
          split at found
          · cases found
            exact Bool.eq_false_iff.mpr isLast
          · exact cells.occupied i row found }

/-- The contents of a list, of which a later one replaces an earlier one at the same position. -/
def ofList (contents : List (Position × Content)) : Cells :=
  contents.foldl (fun cells (p, content) => cells.insert p content) ∅

/-- The rows from top to bottom. -/
def rowList (cells : Cells) : List (Std.TreeMap Nat Content) :=
  cells.rows.toList.map Prod.snd

/-- Number of contents. -/
def size (cells : Cells) : Nat :=
  cells.rowList.foldl (fun count row => count + row.size) 0

/-- The smallest range around all contents. -/
def boundingRange? (cells : Cells) : Option Range := do
  let top ← cells.rows.minKey?
  let bottom ← cells.rows.maxKey?
  let left ← (cells.rowList.filterMap Std.TreeMap.minKey?).min?
  let right ← (cells.rowList.filterMap Std.TreeMap.maxKey?).max?
  return .ofPositions ⟨top, left⟩ ⟨bottom, right⟩

end Cells

end Spreadsheet
