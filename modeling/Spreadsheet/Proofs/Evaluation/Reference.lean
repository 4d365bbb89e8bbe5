import Mathlib.Data.List.Forall2
import Spreadsheet.Evaluation.Reference
import Spreadsheet.Proofs.Book.Sheet
import Spreadsheet.Proofs.Value.Area

/-! What is read of a range is what its cells hold, however large it is and however little of it
holds data.
-/

namespace Spreadsheet

/-- All cells of the range lie in the grid of a sheet. -/
def Range.InGrid (r : Range) : Prop :=
  r.last.position.InGrid

namespace Range.InGrid

variable {r : Range}

theorem rowCount_lt (inGrid : r.InGrid) : r.rowCount < rowLimit := by
  have row := inGrid.1
  simp only [Address.position, maxRows, rowCount, rowLimit] at row ⊢
  omega

theorem colCount_lt (inGrid : r.InGrid) : r.colCount < columnLimit := by
  have col := inGrid.2
  simp only [Address.position, maxColumns, colCount, columnLimit] at col ⊢
  omega

theorem fits (inGrid : r.InGrid) : Area.Fits r.first.position r.rowCount r.colCount := by
  obtain ⟨row, col⟩ := inGrid
  have rows := r.rows_le
  have cols := r.cols_le
  simp only [Address.position, maxRows, maxColumns] at row col
  constructor
  all_goals
    simp only [rowCount, colCount, Address.position, rowLimit, columnLimit]
    omega

end Range.InGrid

/-- An area has the place and extent of a range and shows what the cells of a sheet hold; it
stores nothing else.
-/
structure Area.Shows (area : Area Value) (sheet : Sheet) (r : Range) : Prop where
  origin : area.origin = r.first.position
  height : area.height = r.rowCount
  width : area.width = r.colCount
  cells : ∀ p, r.contains p → area.absolute? p = some (.ofContent (sheet.get p))
  stored : ∀ value ∈ area.cells, ∃ p, value = .ofContent (sheet.get p)

/-- The range is too large to be read cell by cell, and so is the part of it that holds data. -/
def Sheet.Overflows (sheet : Sheet) (r : Range) : Prop :=
  denseLimit < r.cellCount
    ∧ ∃ used part, sheet.usedRange? = some used ∧ used.inter? r = some part
      ∧ Value.maxCells < part.cellCount

namespace Sheet

variable {sheet : Sheet} {r part : Range} {p : Position}

-- The cells of a range as rows of values

theorem length_values : (sheet.values r).length = r.rowCount := by
  simp [values]

theorem length_of_mem_values : ∀ row ∈ sheet.values r, row.length = r.colCount := by
  intro row mem
  obtain ⟨_, _, rfl⟩ := List.mem_map.mp mem
  simp

theorem exists_of_mem_values {row : List Value} {value : Value} (inRows : row ∈ sheet.values r)
    (inRow : value ∈ row)
    : ∃ p, value = .ofContent (sheet.get p) := by
  obtain ⟨i, _, rfl⟩ := List.mem_map.mp inRows
  obtain ⟨j, _, rfl⟩ := List.mem_map.mp inRow
  exact ⟨⟨i, j⟩, rfl⟩

theorem getElem?_values {row col : Nat} (inRow : row < r.rowCount) (inCol : col < r.colCount)
    : (sheet.values r)[row]?.bind (·[col]?)
      = some (.ofContent (sheet.get ⟨r.first.row + row, r.first.col + col⟩)) := by
  simp [values, inRow, inCol]

/-- The values of a range can be stored as a whole if its rows and columns can be counted. -/
theorem ofRows_values (few : r.rowCount < rowLimit) (narrow : r.colCount < columnLimit)
    (fits : Area.Fits r.first.position r.rowCount r.colCount)
    : Area.ofRows r.first.position (sheet.values r)
      = .ok (.dense r.first.position (sheet.values r) r.colCount) := by
  refine Area.ofRows_eq_ok.mpr ⟨r.colCount, length_of_mem_values, ?_, narrow, ?_, rfl⟩
  · rw [length_values]
    exact few
  · rw [length_values]
    exact fits

-- Areas of which one part is stored, or nothing

/-- The area of a range of which one part is stored. -/
def areaWith (sheet : Sheet) (r part : Range) : Area Value where
  origin := r.first.position
  height := r.rowCount
  width := r.colCount
  blockRow := part.first.row - r.first.row
  blockCol := part.first.col - r.first.col
  blockHeight := part.rowCount
  blockWidth := part.colCount
  cells := (sheet.values part).flatten.toArray

/-- The stored part shows its cells at the offsets that they have in the whole range. -/
theorem stored?_areaWith (first : r.contains part.first.position) (inside : r.contains p)
    : (sheet.areaWith r part).stored? (p.row - r.first.row) (p.col - r.first.col)
      = if part.contains p then some (.ofContent (sheet.get p)) else none := by
  rw [Range.contains_iff] at first inside
  simp only [Address.position] at first
  by_cases within : part.contains p
  · rw [if_pos within]
    rw [Range.contains_iff] at within
    have row : p.row - r.first.row - (part.first.row - r.first.row) = p.row - part.first.row := by
      omega
    have col : p.col - r.first.col - (part.first.col - r.first.col) = p.col - part.first.col := by
      omega
    have inRow : p.row - part.first.row < part.rowCount := by
      rw [Range.rowCount]
      omega
    have inCol : p.col - part.first.col < part.colCount := by
      rw [Range.colCount]
      omega
    rw [Area.stored?_of_inBlock]
    · have rowBack : part.first.row + (p.row - part.first.row) = p.row := by omega
      have colBack : part.first.col + (p.col - part.first.col) = p.col := by omega
      simp only [areaWith, row, col, List.getElem?_toArray,
        getElem?_flatten_of_length length_of_mem_values _ inCol, getElem?_values inRow inCol,
        rowBack, colBack]
    · simp only [areaWith, row]
      omega
    · simp only [areaWith, col]
      omega
  · rw [if_neg within, Area.stored?_of_outside]
    intro block
    simp only [areaWith, Range.rowCount, Range.colCount] at block
    have rows := part.rows_le
    have cols := part.cols_le
    exact within (Range.contains_iff.mpr (by omega))

/-- An area of the extent of a range shows a sheet if its stored cells do, and the cells of the
range that are not stored are empty.
-/
theorem shows_of_stored? {area : Area Value} (origin : area.origin = r.first.position)
    (height : area.height = r.rowCount) (width : area.width = r.colCount)
    (cells : ∀ p, r.contains p →
      (area.stored? (p.row - r.first.row) (p.col - r.first.col)).getD .blank
        = .ofContent (sheet.get p))
    (stored : ∀ value ∈ area.cells, ∃ p, value = .ofContent (sheet.get p))
    : area.Shows sheet r := by
  refine ⟨origin, height, width, ?_, stored⟩
  intro p inside
  have shown := cells p inside
  rw [Range.contains_iff] at inside
  have row : area.containsRow p.row := by
    refine Area.containsRow_iff.mpr ?_
    rw [origin, height, Range.rowCount]
    simp only [Address.position]
    omega
  have col : area.containsCol p.col := by
    refine Area.containsCol_iff.mpr ?_
    rw [origin, width, Range.colCount]
    simp only [Address.position]
    omega
  rw [Area.absolute?, row, col, Bool.and_self, if_pos rfl, origin, Area.relative?_of_lt]
  · exact congrArg some shown
  · rw [height, Range.rowCount]
    simp only [Address.position]
    omega
  · rw [width, Range.colCount]
    simp only [Address.position]
    omega

/-- An area with a part stored shows the sheet if the rest of the range is empty. -/
theorem shows_areaWith (first : r.contains part.first.position)
    (rest : ∀ p, r.contains p → ¬part.contains p → sheet.get p = .empty)
    : (sheet.areaWith r part).Shows sheet r := by
  refine shows_of_stored? rfl rfl rfl ?_ ?_
  · intro p inside
    rw [stored?_areaWith first inside]
    split
    · rfl
    · next outside =>
      rw [rest p inside outside]
      rfl
  · intro value mem
    obtain ⟨row, inRows, inRow⟩ := List.mem_flatten.mp (List.mem_toArray.mp mem)
    exact exists_of_mem_values inRows inRow

/-- An area without stored cells shows the sheet if all of the range is empty. -/
theorem shows_unstored (empty : ∀ p, r.contains p → sheet.get p = .empty)
    : (Area.unstored r.first.position r.rowCount r.colCount).Shows sheet r := by
  refine shows_of_stored? rfl rfl rfl ?_ (by simp [Area.unstored])
  intro p inside
  rw [empty p inside, Area.stored?_of_outside]
  · rfl
  · simp [Area.unstored]

/-- A range with all of it stored. -/
theorem dense_values : Area.dense r.first.position (sheet.values r) r.colCount
    = sheet.areaWith r r := by
  simp only [Area.dense, areaWith, length_values, Nat.sub_self]

-- The three ways to read a range

/-- A small range can be read wherever its rows and columns can be counted. -/
theorem area_of_fits (small : r.cellCount ≤ denseLimit)
    (fits : Area.Fits r.first.position r.rowCount r.colCount) (narrow : r.colCount < columnLimit)
    : sheet.area r = pure (sheet.areaWith r r) := by
  have few : r.rowCount < rowLimit := by
    have := Nat.le_mul_of_pos_right r.rowCount fits.wide
    simp only [Range.cellCount, denseLimit, rowLimit] at small ⊢
    omega
  rw [area, if_pos small, ofRows_values few narrow fits, dense_values]
  rfl

theorem area_of_small (small : r.cellCount ≤ denseLimit) (inGrid : r.InGrid)
    : sheet.area r = pure (sheet.areaWith r r) :=
  area_of_fits small inGrid.fits inGrid.colCount_lt

theorem blankArea_eq_ok (fits : Area.Fits r.first.position r.rowCount r.colCount)
    : r.blankArea = .ok (.unstored r.first.position r.rowCount r.colCount) :=
  Area.blank_eq_ok.mpr ⟨fits, rfl⟩

/-- A part of a range can be stored in its area. -/
theorem withBlock_values (inGrid : part.InGrid)
    (first : r.contains part.first.position) (last : r.contains part.last.position)
    : (Area.unstored r.first.position r.rowCount r.colCount).withBlock part.first.position
        (sheet.values part) = .ok (sheet.areaWith r part) := by
  rw [Range.contains_iff] at first last
  have rows := part.rows_le
  have cols := part.cols_le
  simp only [Address.position] at first last
  rw [Area.withBlock_eq_ok (ofRows_values inGrid.rowCount_lt inGrid.colCount_lt inGrid.fits)]
  · simp only [Area.unstored, areaWith, length_values, Address.position]
  · refine Area.containsRow_iff.mpr ?_
    simp only [Area.unstored, Address.position, Range.rowCount]
    omega
  · refine Area.containsRow_iff.mpr ?_
    simp only [Area.unstored, Address.position, Range.rowCount, length_values]
    omega
  · refine Area.containsCol_iff.mpr ?_
    simp only [Area.unstored, Address.position, Range.colCount]
    omega
  · refine Area.containsCol_iff.mpr ?_
    simp only [Area.unstored, Address.position, Range.colCount]
    omega

/-- A large range fails to be read if it has no area. -/
theorem area_of_misfit {e : AreaError} (large : ¬r.cellCount ≤ denseLimit)
    (misfit : r.blankArea = .error e)
    : sheet.area r = ExceptT.lift (.error e) := by
  rw [area, if_neg large, misfit]
  rfl

/-- Of a large range without any data nothing is read. -/
theorem area_of_unused (large : ¬r.cellCount ≤ denseLimit)
    (fits : Area.Fits r.first.position r.rowCount r.colCount)
    (unused : (sheet.usedRange?.bind fun used => used.inter? r) = none)
    : sheet.area r = pure (.unstored r.first.position r.rowCount r.colCount) := by
  rw [area, if_neg large, blankArea_eq_ok fits, unused]
  rfl

/-- Of a large range the part that holds data is read, unless it is too large itself. -/
theorem area_of_used (large : ¬r.cellCount ≤ denseLimit)
    (fits : Area.Fits r.first.position r.rowCount r.colCount)
    (found : (sheet.usedRange?.bind fun used => used.inter? r) = some part) (inGrid : part.InGrid)
    (first : r.contains part.first.position) (last : r.contains part.last.position)
    : sheet.area r
      = if Value.maxCells < part.cellCount then throw .num else pure (sheet.areaWith r part) := by
  rw [area, if_neg large, blankArea_eq_ok fits, found]
  change (if _ then _ else ExceptT.lift (Area.withBlock _ _ _)) = _
  rw [withBlock_values inGrid first last]
  rfl

/-- Without a used part, all of a range is empty. -/
theorem get_eq_empty_of_inter_none
    (unused : (sheet.usedRange?.bind fun used => used.inter? r) = none) (inside : r.contains p)
    : sheet.get p = .empty := by
  have apart : ∀ used, sheet.usedRange? = some used → used.inter? r = none := by
    simpa [Option.bind_eq_none_iff] using unused
  refine get_eq_empty_of_unused fun used isUsed covered => ?_
  exact Range.not_contains_of_inter?_eq_none (apart used isUsed) covered inside

/-- Outside its used part a range is empty. -/
theorem get_eq_empty_of_inter_some
    (found : (sheet.usedRange?.bind fun used => used.inter? r) = some part)
    (inside : r.contains p) (outside : ¬part.contains p)
    : sheet.get p = .empty := by
  obtain ⟨used, isUsed, shared⟩ := Option.bind_eq_some_iff.mp found
  refine get_eq_empty_of_unused fun used' isUsed' covered => ?_
  cases isUsed.symm.trans isUsed'
  exact outside ((Range.contains_inter? shared).mpr ⟨covered, inside⟩)

/-- What reading a large range of a sheet can come to, and when, as long as the part that holds data
lies in the grid.
-/
theorem area_of_large (large : ¬r.cellCount ≤ denseLimit)
    (fits : Area.Fits r.first.position r.rowCount r.colCount)
    (inGrid : ∀ used part, sheet.usedRange? = some used → used.inter? r = some part → part.InGrid)
    : (sheet.Overflows r ∧ sheet.area r = throw .num)
      ∨ (¬sheet.Overflows r ∧ ∃ area, sheet.area r = pure area ∧ area.Shows sheet r) := by
  cases found : sheet.usedRange?.bind fun used => used.inter? r with
  | none =>
    have apart : ∀ used, sheet.usedRange? = some used → used.inter? r = none := by
      simpa [Option.bind_eq_none_iff] using found
    refine .inr ⟨?_, _, area_of_unused large fits found, shows_unstored ?_⟩
    · intro overflows
      obtain ⟨_, used, part, isUsed, shared, _⟩ := overflows
      rw [apart used isUsed] at shared
      cases shared
    · exact fun p => get_eq_empty_of_inter_none found
  | some part =>
    obtain ⟨used, isUsed, shared⟩ := Option.bind_eq_some_iff.mp found
    have first := ((Range.contains_inter? shared).mp Range.contains_first).2
    have last := ((Range.contains_inter? shared).mp Range.contains_last).2
    have read := area_of_used large fits found (inGrid used part isUsed shared) first last
    by_cases full : Value.maxCells < part.cellCount
    · rw [if_pos full] at read
      exact .inl ⟨⟨Nat.not_le.mp large, used, part, isUsed, shared, full⟩, read⟩
    · rw [if_neg full] at read
      refine .inr ⟨?_, _, read, shows_areaWith first ?_⟩
      · intro overflows
        obtain ⟨_, used', part', isUsed', shared', full'⟩ := overflows
        cases isUsed.symm.trans isUsed'
        cases shared.symm.trans shared'
        exact full full'
      · exact fun p => get_eq_empty_of_inter_some found

/-- The part of a range that holds data lies in the grid, although the range may not. -/
theorem InGrid.inter? {used : Range} (inGrid : sheet.InGrid)
    (isUsed : sheet.usedRange? = some used) (shared : used.inter? r = some part)
    : part.InGrid := by
  have last := ((Range.contains_inter? shared).mp Range.contains_last).1
  have bound := inGrid.usedRange? isUsed
  rw [Range.contains_iff] at last
  exact ⟨Nat.lt_of_le_of_lt last.1.2 bound.1, Nat.lt_of_le_of_lt last.2.2 bound.2⟩

/-- Everything that reading a range in the grid can come to, and when. -/
theorem area_cases (sheet : Sheet) (inGrid : r.InGrid)
    : (sheet.Overflows r ∧ sheet.area r = throw .num)
      ∨ (¬sheet.Overflows r ∧ ∃ area, sheet.area r = pure area ∧ area.Shows sheet r) := by
  by_cases small : r.cellCount ≤ denseLimit
  · refine .inr ⟨fun overflows => ?_, _, area_of_small small inGrid, ?_⟩
    · exact Nat.not_lt.mpr small overflows.1
    · exact shows_areaWith Range.contains_first fun p inside outside => absurd inside outside
  · refine area_of_large small inGrid.fits fun used part _ shared => ?_
    have last := ((Range.contains_inter? shared).mp Range.contains_last).2
    rw [Range.contains_iff] at last
    exact ⟨Nat.lt_of_le_of_lt last.1.2 inGrid.1, Nat.lt_of_le_of_lt last.2.2 inGrid.2⟩

/-- A range of too many cells that lies between two cells that are not empty is too large to be
read.
-/
theorem overflows_of_between {q : Position} (many : Value.maxCells < r.cellCount)
    (before : p ∈ sheet.cells ∧ p.row ≤ r.first.row ∧ p.col ≤ r.first.col)
    (behind : q ∈ sheet.cells ∧ r.last.row ≤ q.row ∧ r.last.col ≤ q.col)
    : sheet.Overflows r := by
  obtain ⟨used, found⟩ := exists_usedRange? before.1
  have low := Range.contains_iff.mp (contains_usedRange? found before.1)
  have high := Range.contains_iff.mp (contains_usedRange? found behind.1)
  have covers {p : Position} (inside : r.contains p) : used.contains p := by
    rw [Range.contains_iff] at inside ⊢
    omega
  obtain ⟨part, shared, count⟩ :=
    Range.exists_inter?_of_covers (covers Range.contains_first) (covers Range.contains_last)
  have large : denseLimit < r.cellCount := Nat.lt_trans (by decide) many
  exact ⟨large, used, part, found, shared, count ▸ many⟩

end Sheet

namespace Context

variable {book : Workbook} {r : Range}

/-- The sheet at an index has too much data in a range. -/
def OverflowsAt (book : Workbook) (r : Range) (index : Nat) : Prop :=
  ∃ sheet, book.sheets[index]? = some sheet ∧ sheet.Overflows r

/-- An area shows what the sheet at an index holds in a range. -/
def ShowsAt (book : Workbook) (r : Range) (index : Nat) (area : Area Value) : Prop :=
  ∃ sheet, book.sheets[index]? = some sheet ∧ area.Shows sheet r

/-- The areas of several sheets, by induction on the sheets that are read. -/
theorem mapM_area_cases (indices : List Nat) (present : ∀ i ∈ indices, i < book.sheets.length)
    (inGrid : r.InGrid) (read : Nat → Reading (Area Value))
    (reads : ∀ i sheet, book.sheets[i]? = some sheet → read i = sheet.area r)
    : ((∃ i ∈ indices, OverflowsAt book r i) ∧ indices.mapM read = throw .num)
      ∨ ((∀ i ∈ indices, ¬OverflowsAt book r i)
        ∧ ∃ areas, indices.mapM read = pure areas
          ∧ List.Forall₂ (ShowsAt book r) indices areas) := by
  induction indices with
  | nil => exact .inr ⟨by simp, [], rfl, .nil⟩
  | cons i indices ih =>
    simp only [List.mem_cons, forall_eq_or_imp, exists_eq_or_imp] at present ⊢
    have found : book.sheets[i]? = some book.sheets[i] := List.getElem?_eq_getElem present.1
    rw [List.mapM_cons, reads i _ found]
    rcases book.sheets[i].area_cases inGrid with ⟨overflows, read⟩ | ⟨enough, area, read, shows_⟩
    · rw [read]
      exact .inl ⟨.inl ⟨_, found, overflows⟩, rfl⟩
    · have enoughAt : ¬OverflowsAt book r i := by
        intro overflows
        obtain ⟨sheet, found', overflows⟩ := overflows
        cases found.symm.trans found'
        exact enough overflows
      rw [read]
      rcases ih present.2 with ⟨overflows, rest⟩ | ⟨all, areas, rest, shown⟩
      · rw [rest]
        exact .inl ⟨.inr overflows, rfl⟩
      · rw [rest]
        exact .inr ⟨⟨enoughAt, all⟩, area :: areas, rfl, .cons ⟨_, found, shows_⟩ shown⟩

/-- Of every sheet that a reference names, reading a range gives the cells of the range, or else
`#NUM!` just if some of these sheets has too much data in it.
-/
theorem areas_agree (ctx : Context) (ref : Option SheetRef) (inBook : ctx.book = some book)
    {indices : List Nat}
    (found : ctx.sheets book ref = .ok indices)
    (present : ∀ i ∈ indices, i < book.sheets.length) (inGrid : r.InGrid)
    : ((∃ i ∈ indices, OverflowsAt book r i) ∧ ctx.areas ref r = throw .num)
      ∨ ((∀ i ∈ indices, ¬OverflowsAt book r i)
        ∧ ∃ areas, ctx.areas ref r = pure areas ∧ List.Forall₂ (ShowsAt book r) indices areas) := by
  obtain ⟨read, same, reads⟩ : ∃ read, ctx.areas ref r = indices.mapM read
      ∧ ∀ i sheet, book.sheets[i]? = some sheet → read i = sheet.area r := by
    unfold areas
    rw [inBook]
    dsimp only
    rw [found]
    refine ⟨_, rfl, ?_⟩
    intro i sheet found
    rw [found]
  rw [same]
  exact mapM_area_cases indices present inGrid read reads

/-- Of three whole columns only C3:D9 is read, the part of the used range C3:F9 that they share.
Cells in and out of that part are as on the sheet.
-/
theorem areas_agree_columns
    : let sheet : Sheet :=
        ⟨"Data", .ofList [(⟨2, 2⟩, .text "x"), (⟨4, 3⟩, .number 7), (⟨8, 5⟩, .number 1)]⟩
      let ctx : Context := { book := some { Workbook.new with sheets := [sheet] } }
      let columns := Range.ofPositions ⟨0, 1⟩ ⟨1048575, 3⟩
      denseLimit < columns.cellCount
        ∧ (∃ used, sheet.usedRange? = some used
          ∧ used.inter? columns = some (.ofPositions ⟨2, 2⟩ ⟨8, 3⟩))
        ∧ ∃ area, ctx.areas none columns = pure [area]
          ∧ area.absolute? ⟨2, 2⟩ = some (.text "x") ∧ area.absolute? ⟨4, 3⟩ = some (.number 7)
          ∧ area.absolute? ⟨8, 3⟩ = some .blank ∧ area.absolute? ⟨1048575, 1⟩ = some .blank := by
  intro sheet ctx columns
  have stored {p : Position} : p ∈ sheet.cells ↔ p = ⟨8, 5⟩ ∨ p = ⟨4, 3⟩ ∨ p = ⟨2, 2⟩ := by
    simp only [sheet, Cells.ofList, List.foldl_cons, List.foldl_nil, Cells.mem_insert,
      Cells.not_mem_empty, or_false, eq_comm]
  have isUsed : sheet.usedRange? = some (.ofPositions ⟨2, 2⟩ ⟨8, 5⟩) := by
    refine Sheet.usedRange?_of_corners (stored.mpr (.inr (.inr rfl))) (stored.mpr (.inl rfl)) ?_
    intro r mem
    rcases stored.mp mem with rfl | rfl | rfl <;> decide
  have shared : (Range.ofPositions ⟨2, 2⟩ ⟨8, 5⟩).inter? columns
      = some (.ofPositions ⟨2, 2⟩ ⟨8, 3⟩) := by rfl
  refine ⟨by decide, ⟨_, isUsed, shared⟩, ?_⟩
  have present : ∀ i ∈ [0], i < [sheet].length := by decide
  have inGrid : columns.InGrid := ⟨by decide, by decide⟩
  rcases areas_agree ctx none rfl rfl present inGrid with ⟨overflows, _⟩ | ⟨_, _, read, shown⟩
  · obtain ⟨i, first, sheet', found, _, used, part, isUsed', shared', many⟩ := overflows
    obtain rfl := List.mem_singleton.mp first
    cases found
    cases isUsed.symm.trans isUsed'
    cases shared.symm.trans shared'
    exact absurd many (by decide)
  · obtain _ | ⟨⟨_, found, shows_⟩, ⟨⟩⟩ := shown
    cases found
    exact ⟨_, read, shows_.cells _ (by decide), shows_.cells _ (by decide),
      shows_.cells _ (by decide), shows_.cells _ (by decide)⟩

end Context

end Spreadsheet
