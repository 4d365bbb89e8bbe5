import Spreadsheet.Book.Sheet
import Spreadsheet.Proofs.Book.Cells
import Spreadsheet.Proofs.Book.Mutation

/-! The used range of a sheet covers every cell that is not empty, and lies in the grid as these
cells do.
-/

namespace Spreadsheet.Sheet

theorem get_eq_empty_of_not_mem {sheet : Sheet} {p : Position} (h : p ∉ sheet.cells)
    : sheet.get p = .empty := by
  rw [get, Cells.get?_eq_none.mpr h, Option.getD_none]

theorem contains_usedRange? {sheet : Sheet} {used : Range} {p : Position}
    (found : sheet.usedRange? = some used) (stored : p ∈ sheet.cells)
    : used.contains p :=
  Cells.contains_boundingRange? found stored

theorem exists_usedRange? {sheet : Sheet} {p : Position} (stored : p ∈ sheet.cells)
    : ∃ used, sheet.usedRange? = some used :=
  Cells.exists_boundingRange? stored

/-- The used range of a sheet with cells at two corners between which all others lie. -/
theorem usedRange?_of_corners {sheet : Sheet} {p q : Position} (first : p ∈ sheet.cells)
    (last : q ∈ sheet.cells)
    (between : ∀ r ∈ sheet.cells,
      (p.row ≤ r.row ∧ r.row ≤ q.row) ∧ p.col ≤ r.col ∧ r.col ≤ q.col)
    : sheet.usedRange? = some (.ofPositions p q) :=
  Cells.boundingRange?_of_corners first last between

/-- What lies outside the used range is empty; a sheet without a used range is empty. -/
theorem get_eq_empty_of_unused {sheet : Sheet} {p : Position}
    (h : ∀ used, sheet.usedRange? = some used → ¬used.contains p)
    : sheet.get p = .empty := by
  refine get_eq_empty_of_not_mem fun stored => ?_
  obtain ⟨used, found⟩ := exists_usedRange? stored
  exact h used found (contains_usedRange? found stored)

-- Sheets within the grid

theorem checkBounds_eq_ok {p : Position} : checkBounds p = .ok () ↔ p.InGrid := by
  unfold checkBounds Position.InGrid
  split
  · next below => simp [Nat.not_lt.mpr below]
  · split
    · next beside => simp [Nat.not_lt.mpr beside]
    · simp_all

theorem atomic_set (p : Position) (content : Content) : (InPlace.set p content).Atomic :=
  Mutation.atomic_check_bind _ fun _ => Mutation.atomic_modify _

theorem set_eq_ok {sheet sheet' : Sheet} {p : Position} {content : Content}
    : sheet.set p content = .ok sheet' ↔ p.InGrid ∧ sheet' = sheet.put p content := by
  rw [Sheet.set, InPlace.set, Mutation.result_check_modify_eq_ok, checkBounds_eq_ok]

/-- All cells that are not empty lie in the grid. -/
def InGrid (sheet : Sheet) : Prop :=
  ∀ p ∈ sheet.cells, p.InGrid

theorem inGrid_blank (name : String) : (blank name).InGrid :=
  fun _ mem => absurd mem Cells.not_mem_empty

theorem InGrid.clear {sheet : Sheet} (h : sheet.InGrid) (p : Position) : (sheet.clear p).InGrid :=
  fun q mem => h q (Cells.mem_erase.mp mem).2

theorem InGrid.insert {sheet : Sheet} {p : Position} (h : sheet.InGrid) (inGrid : p.InGrid)
    (content : Content)
    : InGrid { sheet with cells := sheet.cells.insert p content } := by
  intro q mem
  rcases Cells.mem_insert.mp mem with rfl | mem
  · exact inGrid
  · exact h q mem

/-- Setting a cell keeps all cells in the grid. -/
theorem InGrid.set {sheet sheet' : Sheet} {p : Position} {content : Content} (h : sheet.InGrid)
    (set : sheet.set p content = .ok sheet')
    : sheet'.InGrid := by
  obtain ⟨inGrid, rfl⟩ := set_eq_ok.mp set
  unfold put
  split
  · exact h.clear p
  · exact h.insert inGrid content

theorem InGrid.usedRange? {sheet : Sheet} {used : Range} (h : sheet.InGrid)
    (found : sheet.usedRange? = some used)
    : used.last.position.InGrid :=
  Cells.inGrid_boundingRange? found h

end Spreadsheet.Sheet
