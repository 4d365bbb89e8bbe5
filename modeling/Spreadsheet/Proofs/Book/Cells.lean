import Mathlib.Data.List.Nodup
import Mathlib.Order.Bounds.Basic
import Spreadsheet.Book.Cells
import Spreadsheet.Proofs.Grid.Range

/-! What is kept at a position after contents are kept and dropped, how many contents there are,
and which range holds them all.
-/

namespace Spreadsheet

theorem Position.eq_iff {p q : Position} : p = q ↔ p.row = q.row ∧ p.col = q.col := by
  cases p
  cases q
  simp

namespace Cells

variable {cells : Cells} {p q : Position} {content : Content} {i j : Nat}
  {row : Std.TreeMap Nat Content} {used r : Range}

-- What is kept where

theorem mem_iff : p ∈ cells ↔ ∃ content, cells.get? p = some content :=
  Option.isSome_iff_exists

theorem get?_eq_none : cells.get? p = none ↔ p ∉ cells := by
  rw [mem_iff, ← Option.ne_none_iff_exists', not_not]

theorem get?_of_row (found : cells.rows[p.row]? = some row) : cells.get? p = row[p.col]? := by
  rw [get?, found]
  rfl

theorem get?_of_no_row (unused : cells.rows[p.row]? = none) : cells.get? p = none := by
  rw [get?, unused]
  rfl

@[simp]
theorem get?_empty (p : Position) : (∅ : Cells).get? p = none :=
  get?_of_no_row Std.TreeMap.getElem?_emptyc

theorem not_mem_empty : p ∉ (∅ : Cells) :=
  get?_eq_none.mp (get?_empty p)

theorem getElem?_rows_insert (cells : Cells) (p : Position) (content : Content) (i : Nat)
    : (cells.insert p content).rows[i]?
      = if p.row = i then some ((cells.rows.getD p.row ∅).insert p.col content)
        else cells.rows[i]? := by
  rw [insert, Std.TreeMap.getElem?_insert]
  simp only [Nat.compare_eq_eq]

/-- What was kept at a position is replaced there, and all else stays. -/
theorem get?_insert (cells : Cells) (p : Position) (content : Content) (q : Position)
    : (cells.insert p content).get? q = if p = q then some content else cells.get? q := by
  by_cases sameRow : p.row = q.row
  · rw [get?_of_row ((getElem?_rows_insert ..).trans (if_pos sameRow)),
      Std.TreeMap.getElem?_insert]
    simp only [Nat.compare_eq_eq]
    have older : (cells.rows.getD p.row ∅)[q.col]? = cells.get? q := by
      rw [Std.TreeMap.getD_eq_getD_getElem?, sameRow]
      cases found : cells.rows[q.row]? with
      | none => simp [get?_of_no_row found]
      | some row => simp [get?_of_row found]
    rw [older]
    simp only [Position.eq_iff, sameRow, true_and]
  · have apart : p ≠ q := fun same => sameRow (congrArg Position.row same)
    rw [if_neg apart, get?, getElem?_rows_insert, if_neg sameRow, get?]

theorem getElem?_rows_erase (found : cells.rows[p.row]? = some row) (i : Nat)
    : (cells.erase p).rows[i]?
      = if p.row = i then
          if (row.erase p.col).isEmpty then none else some (row.erase p.col)
        else cells.rows[i]? := by
  unfold erase
  split
  · next none => cases none.symm.trans found
  · next row' found' =>
    obtain rfl := Option.some.inj (found'.symm.trans found)
    split
    · next isLast =>
      rw [Std.TreeMap.getElem?_erase]
      simp only [Nat.compare_eq_eq]
    · next others =>
      rw [Std.TreeMap.getElem?_insert]
      simp only [Nat.compare_eq_eq]

theorem erase_of_no_row (unused : cells.rows[p.row]? = none) : cells.erase p = cells := by
  unfold erase
  split
  · rfl
  · next found => cases unused.symm.trans found

/-- Nothing is left at a position whose content is dropped, and all else stays. -/
theorem get?_erase (cells : Cells) (p q : Position)
    : (cells.erase p).get? q = if p = q then none else cells.get? q := by
  cases found : cells.rows[p.row]? with
  | none =>
    rw [erase_of_no_row found]
    split
    · next same => exact same ▸ get?_of_no_row found
    · rfl
  | some row =>
    have kept := getElem?_rows_erase found q.row
    by_cases sameRow : p.row = q.row
    · rw [if_pos sameRow] at kept
      have left : (cells.erase p).get? q = (row.erase p.col)[q.col]? := by
        split at kept
        · next isLast => rw [get?_of_no_row kept, Std.TreeMap.getElem?_of_isEmpty isLast]
        · exact get?_of_row kept
      rw [left, Std.TreeMap.getElem?_erase, get?_of_row (sameRow ▸ found)]
      simp only [Nat.compare_eq_eq, Position.eq_iff, sameRow, true_and]
    · have apart : p ≠ q := fun same => sameRow (congrArg Position.row same)
      rw [if_neg sameRow] at kept
      rw [if_neg apart, get?, kept, get?]

theorem mem_insert : q ∈ cells.insert p content ↔ p = q ∨ q ∈ cells := by
  rw [mem_iff, get?_insert, mem_iff]
  split
  · next same => simp [same]
  · next apart => simp [apart]

theorem mem_erase : q ∈ cells.erase p ↔ p ≠ q ∧ q ∈ cells := by
  rw [mem_iff, get?_erase, mem_iff]
  split
  · next same => simp [same]
  · next apart => simp [apart]

-- The positions of all contents

/-- A content is kept in the row of its position. -/
theorem mem_iff_row : p ∈ cells ↔ ∃ row, cells.rows[p.row]? = some row ∧ p.col ∈ row := by
  cases found : cells.rows[p.row]? with
  | none => simp [mem_iff, get?_of_no_row found]
  | some row =>
    rw [mem_iff, get?_of_row found, ← Option.isSome_iff_exists, Std.TreeMap.isSome_getElem?_iff_mem]
    simp

/-- Every row keeps a content. -/
theorem exists_mem_of_row (found : cells.rows[i]? = some row) : ∃ col ∈ row, ⟨i, col⟩ ∈ cells := by
  obtain ⟨col, mem⟩ := Std.TreeMap.isEmpty_eq_false_iff_exists_mem.mp (cells.occupied i row found)
  exact ⟨col, mem, mem_iff_row.mpr ⟨row, found, mem⟩⟩

/-- The positions of all contents, row by row. -/
def positions (cells : Cells) : List Position :=
  cells.rows.toList.flatMap fun (i, row) => row.keys.map (Position.mk i)

theorem mem_positions : p ∈ cells.positions ↔ p ∈ cells := by
  rw [mem_iff_row]
  constructor
  · intro mem
    obtain ⟨⟨i, row⟩, inRows, inRow⟩ := List.mem_flatMap.mp mem
    obtain ⟨col, inKeys, rfl⟩ := List.mem_map.mp inRow
    exact ⟨row, Std.TreeMap.mem_toList_iff_getElem?_eq_some.mp inRows,
      Std.TreeMap.mem_keys.mp inKeys⟩
  · rintro ⟨row, found, mem⟩
    exact List.mem_flatMap.mpr ⟨(p.row, row),
      Std.TreeMap.mem_toList_iff_getElem?_eq_some.mpr found,
      List.mem_map_of_mem (Std.TreeMap.mem_keys.mpr mem)⟩

/-- No position occurs twice: not within a row, and not in two rows. -/
theorem nodup_positions (cells : Cells) : cells.positions.Nodup := by
  refine List.nodup_flatMap.mpr ⟨fun ⟨i, row⟩ _ => ?_, ?_⟩
  · exact Std.TreeMap.nodup_keys.map fun col col' same => (Position.mk.inj same).2
  · refine Std.TreeMap.distinct_keys_toList.imp ?_
    rintro ⟨i, row⟩ ⟨j, row'⟩ apart p inRow inRow'
    obtain ⟨col, _, rfl⟩ := List.mem_map.mp inRow
    obtain ⟨col', _, same⟩ := List.mem_map.mp inRow'
    exact apart (Nat.compare_eq_eq.mpr (Position.mk.inj same).1.symm)

theorem length_positions (cells : Cells) : cells.positions.length = cells.size := by
  have total (rows : List (Nat × Std.TreeMap Nat Content)) (count : Nat)
      : (rows.map Prod.snd).foldl (fun count row => count + row.size) count
        = count + (rows.flatMap fun (i, row) => row.keys.map (Position.mk i)).length := by
    induction rows generalizing count with
    | nil => rfl
    | cons first rows ih =>
      rw [List.map_cons, List.foldl_cons, ih, List.flatMap_cons, List.length_append,
        List.length_map, Std.TreeMap.length_keys, Nat.add_assoc]
  rw [size, rowList, total, Nat.zero_add, positions]

-- The range around all contents

theorem mem_rowList : row ∈ cells.rowList ↔ ∃ i : Nat, cells.rows[i]? = some row := by
  simp [rowList]

/-- The rows that have contents. -/
def rowSet (cells : Cells) : Set Nat :=
  {i | ∃ p ∈ cells, p.row = i}

/-- The columns that have contents. -/
def colSet (cells : Cells) : Set Nat :=
  {j | ∃ p ∈ cells, p.col = j}

theorem mem_rowSet : i ∈ cells.rowSet ↔ i ∈ cells.rows := by
  constructor
  · rintro ⟨p, mem, rfl⟩
    obtain ⟨row, found, _⟩ := mem_iff_row.mp mem
    exact Std.TreeMap.mem_iff_isSome_getElem?.mpr (Option.isSome_of_eq_some found)
  · intro mem
    obtain ⟨row, found⟩ := Option.isSome_iff_exists.mp (Std.TreeMap.mem_iff_isSome_getElem?.mp mem)
    obtain ⟨col, _, stored⟩ := exists_mem_of_row found
    exact ⟨⟨i, col⟩, stored, rfl⟩

theorem mem_colSet : j ∈ cells.colSet ↔ ∃ row ∈ cells.rowList, j ∈ row := by
  constructor
  · rintro ⟨p, mem, rfl⟩
    obtain ⟨row, found, inRow⟩ := mem_iff_row.mp mem
    exact ⟨row, mem_rowList.mpr ⟨p.row, found⟩, inRow⟩
  · rintro ⟨row, mem, inRow⟩
    obtain ⟨i, found⟩ := mem_rowList.mp mem
    exact ⟨⟨i, j⟩, mem_iff_row.mpr ⟨row, found, inRow⟩, rfl⟩

theorem minKey?_rows : cells.rows.minKey? = some i ↔ IsLeast cells.rowSet i := by
  rw [Std.TreeMap.minKey?_eq_some_iff_mem_and_forall]
  simp only [Nat.isLE_compare, ← mem_rowSet]
  rfl

theorem maxKey?_rows : cells.rows.maxKey? = some i ↔ IsGreatest cells.rowSet i := by
  rw [Std.TreeMap.maxKey?_eq_some_iff_mem_and_forall]
  simp only [Nat.isLE_compare, ← mem_rowSet]
  rfl

/-- The least of the first columns of all rows is the first column that has contents. -/
theorem isLeast_colSet (found : (cells.rowList.filterMap Std.TreeMap.minKey?).min? = some j)
    : IsLeast cells.colSet j := by
  obtain ⟨mem, least⟩ := List.min?_eq_some_iff.mp found
  obtain ⟨row, inList, first⟩ := List.mem_filterMap.mp mem
  refine ⟨mem_colSet.mpr ⟨row, inList, ?_⟩, fun k inCols => ?_⟩
  · exact (Std.TreeMap.minKey?_eq_some_iff_mem_and_forall.mp first).1
  · obtain ⟨row', inList', inRow'⟩ := mem_colSet.mp inCols
    obtain ⟨k', first'⟩ := Option.isSome_iff_exists.mp (Std.TreeMap.isSome_minKey?_of_mem inRow')
    have before := (Std.TreeMap.minKey?_eq_some_iff_mem_and_forall.mp first').2 k inRow'
    exact Nat.le_trans (least k' (List.mem_filterMap.mpr ⟨row', inList', first'⟩))
      (Nat.isLE_compare.mp before)

/-- The greatest of the last columns of all rows is the last column that has contents. -/
theorem isGreatest_colSet (found : (cells.rowList.filterMap Std.TreeMap.maxKey?).max? = some j)
    : IsGreatest cells.colSet j := by
  obtain ⟨mem, greatest⟩ := List.max?_eq_some_iff.mp found
  obtain ⟨row, inList, last⟩ := List.mem_filterMap.mp mem
  refine ⟨mem_colSet.mpr ⟨row, inList, ?_⟩, fun k inCols => ?_⟩
  · exact (Std.TreeMap.maxKey?_eq_some_iff_mem_and_forall.mp last).1
  · obtain ⟨row', inList', inRow'⟩ := mem_colSet.mp inCols
    obtain ⟨k', last'⟩ := Option.isSome_iff_exists.mp (Std.TreeMap.isSome_maxKey?_of_mem inRow')
    have behind := (Std.TreeMap.maxKey?_eq_some_iff_mem_and_forall.mp last').2 k inRow'
    exact Nat.le_trans (Nat.isLE_compare.mp behind)
      (greatest k' (List.mem_filterMap.mpr ⟨row', inList', last'⟩))

/-- The corners of the range around all contents. -/
theorem boundingRange?_eq_some
    (found : cells.boundingRange? = some used)
    : ∃ top bottom left right, used = .ofPositions ⟨top, left⟩ ⟨bottom, right⟩
      ∧ IsLeast cells.rowSet top ∧ IsGreatest cells.rowSet bottom
      ∧ IsLeast cells.colSet left ∧ IsGreatest cells.colSet right := by
  obtain ⟨top, isTop, found⟩ := Option.bind_eq_some_iff.mp found
  obtain ⟨bottom, isBottom, found⟩ := Option.bind_eq_some_iff.mp found
  obtain ⟨left, isLeft, found⟩ := Option.bind_eq_some_iff.mp found
  obtain ⟨right, isRight, found⟩ := Option.bind_eq_some_iff.mp found
  cases found
  exact ⟨top, bottom, left, right, rfl, minKey?_rows.mp isTop, maxKey?_rows.mp isBottom,
    isLeast_colSet isLeft, isGreatest_colSet isRight⟩

/-- There is a range around all contents as soon as there is one content. -/
theorem exists_boundingRange? (mem : p ∈ cells) : ∃ used, cells.boundingRange? = some used := by
  obtain ⟨row, found, inRow⟩ := mem_iff_row.mp mem
  have inRows : p.row ∈ cells.rows := mem_rowSet.mp ⟨p, mem, rfl⟩
  have inList : row ∈ cells.rowList := mem_rowList.mpr ⟨p.row, found⟩
  obtain ⟨top, isTop⟩ := Option.isSome_iff_exists.mp (Std.TreeMap.isSome_minKey?_of_mem inRows)
  obtain ⟨bottom, isBottom⟩ :=
    Option.isSome_iff_exists.mp (Std.TreeMap.isSome_maxKey?_of_mem inRows)
  obtain ⟨first, isFirst⟩ := Option.isSome_iff_exists.mp (Std.TreeMap.isSome_minKey?_of_mem inRow)
  obtain ⟨last, isLast⟩ := Option.isSome_iff_exists.mp (Std.TreeMap.isSome_maxKey?_of_mem inRow)
  obtain ⟨left, isLeft⟩ := Option.isSome_iff_exists.mp
    (List.isSome_min?_of_mem (List.mem_filterMap.mpr ⟨row, inList, isFirst⟩))
  obtain ⟨right, isRight⟩ := Option.isSome_iff_exists.mp
    (List.isSome_max?_of_mem (List.mem_filterMap.mpr ⟨row, inList, isLast⟩))
  refine ⟨.ofPositions ⟨top, left⟩ ⟨bottom, right⟩, ?_⟩
  rw [boundingRange?, isTop, isBottom, isLeft, isRight]
  rfl

theorem boundingRange?_eq_none : cells.boundingRange? = none ↔ ∀ p, p ∉ cells := by
  constructor
  · intro unused p mem
    obtain ⟨used, found⟩ := exists_boundingRange? mem
    cases unused.symm.trans found
  · intro noContents
    cases found : cells.boundingRange? with
    | none => rfl
    | some used =>
      obtain ⟨_, _, _, _, _, ⟨⟨p, mem, _⟩, _⟩, _⟩ := boundingRange?_eq_some found
      exact absurd mem (noContents p)

/-- The range around all contents is the intersection of all ranges that cover them. -/
theorem contains_boundingRange?_iff (found : cells.boundingRange? = some used)
    : used.contains p ↔ ∀ r : Range, (∀ q ∈ cells, r.contains q) → r.contains p := by
  obtain ⟨top, bottom, left, right, rfl, isTop, isBottom, isLeft, isRight⟩ :=
    boundingRange?_eq_some found
  have rows : top ≤ bottom := isTop.2 isBottom.1
  have cols : left ≤ right := isLeft.2 isRight.1
  have inside (p : Position)
      : (Range.ofPositions ⟨top, left⟩ ⟨bottom, right⟩).contains p
        ↔ (top ≤ p.row ∧ p.row ≤ bottom) ∧ (left ≤ p.col ∧ p.col ≤ right) :=
    Range.contains_ofPositions rows cols
  constructor
  · intro within r covers
    obtain ⟨atTop, mem, rfl⟩ := isTop.1
    obtain ⟨atBottom, mem', rfl⟩ := isBottom.1
    obtain ⟨atLeft, mem'', rfl⟩ := isLeft.1
    obtain ⟨atRight, mem''', rfl⟩ := isRight.1
    have corners := (inside p).mp within
    have first := Range.contains_iff.mp (covers atTop mem)
    have last := Range.contains_iff.mp (covers atBottom mem')
    have start := Range.contains_iff.mp (covers atLeft mem'')
    have stop := Range.contains_iff.mp (covers atRight mem''')
    rw [Range.contains_iff]
    omega
  · intro covered
    refine covered _ fun q mem => (inside q).mpr ?_
    exact ⟨⟨isTop.2 ⟨q, mem, rfl⟩, isBottom.2 ⟨q, mem, rfl⟩⟩, isLeft.2 ⟨q, mem, rfl⟩,
      isRight.2 ⟨q, mem, rfl⟩⟩

theorem contains_boundingRange? (found : cells.boundingRange? = some used) (mem : p ∈ cells)
    : used.contains p :=
  (contains_boundingRange?_iff found).mpr fun _ covers => covers p mem

/-- Two contents between whose positions all others lie are the corners of the range around all. -/
theorem boundingRange?_of_corners (first : p ∈ cells) (last : q ∈ cells)
    (between : ∀ r ∈ cells, (p.row ≤ r.row ∧ r.row ≤ q.row) ∧ p.col ≤ r.col ∧ r.col ≤ q.col)
    : cells.boundingRange? = some (.ofPositions p q) := by
  obtain ⟨used, found⟩ := exists_boundingRange? first
  obtain ⟨top, bottom, left, right, rfl, isTop, isBottom, isLeft, isRight⟩ :=
    boundingRange?_eq_some found
  have atTop : IsLeast cells.rowSet p.row :=
    ⟨⟨p, first, rfl⟩, fun _ ⟨r, mem, same⟩ => same ▸ (between r mem).1.1⟩
  have atBottom : IsGreatest cells.rowSet q.row :=
    ⟨⟨q, last, rfl⟩, fun _ ⟨r, mem, same⟩ => same ▸ (between r mem).1.2⟩
  have atLeft : IsLeast cells.colSet p.col :=
    ⟨⟨p, first, rfl⟩, fun _ ⟨r, mem, same⟩ => same ▸ (between r mem).2.1⟩
  have atRight : IsGreatest cells.colSet q.col :=
    ⟨⟨q, last, rfl⟩, fun _ ⟨r, mem, same⟩ => same ▸ (between r mem).2.2⟩
  rw [found, isTop.unique atTop, isBottom.unique atBottom, isLeft.unique atLeft,
    isRight.unique atRight]

theorem inGrid_boundingRange? (found : cells.boundingRange? = some used)
    (inGrid : ∀ p ∈ cells, p.InGrid)
    : used.last.position.InGrid := by
  obtain ⟨top, bottom, left, right, rfl, isTop, isBottom, isLeft, isRight⟩ :=
    boundingRange?_eq_some found
  obtain ⟨atBottom, mem, rfl⟩ := isBottom.1
  obtain ⟨atRight, mem', rfl⟩ := isRight.1
  simp only [Range.ofPositions, Range.spanning, Address.ofPosition, Address.position,
    Nat.max_eq_right (isTop.2 isBottom.1), Nat.max_eq_right (isLeft.2 isRight.1)]
  exact ⟨(inGrid atBottom mem).1, (inGrid atRight mem').2⟩

end Cells

end Spreadsheet
