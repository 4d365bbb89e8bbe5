import Spreadsheet.Proofs.Value.Stored

/-! Areas by the steps that they are built in. A step is refused if its arguments make no area or no
block inside of one; otherwise the area shows the block stored last, with blanks around it.
-/

namespace Spreadsheet

-- What there is to be built

/-- How an area is built. -/
inductive Construction where
  | ofRows (origin : Position) (rows : List (List Value))
  | single (origin : Position) (value : Value)
  | blank (origin : Position) (height width : Nat)
  | withBlock (before : Construction) (place : Position) (rows : List (List Value))

namespace Construction

/-- The area that is built, unless a step is refused. -/
def build : Construction → Except AreaError (Area Value)
  | ofRows origin rows => Area.ofRows origin rows
  | single origin value => .ok (Area.single origin value)
  | blank origin height width => Area.blank origin height width
  | withBlock before place rows => do (← before.build).withBlock place rows

/-- The row and the column can be counted. -/
def Countable (row col : Nat) : Prop :=
  row < rowLimit ∧ col < columnLimit

/-- Every place, and every extent that is given by numbers, can be counted. -/
def Given : Construction → Prop
  | ofRows origin _ => Countable origin.row origin.col
  | single origin _ => Countable origin.row origin.col
  | blank origin height width => Countable origin.row origin.col ∧ Countable height width
  | withBlock before place _ => before.Given ∧ Countable place.row place.col

/-- The length of the first row. -/
def gridWidth (rows : List (List Value)) : Nat :=
  (rows.head?.map List.length).getD 0

/-- The corner of the area. -/
def origin : Construction → Position
  | ofRows origin _ => origin
  | single origin _ => origin
  | blank origin _ _ => origin
  | withBlock before _ _ => before.origin

/-- The number of rows. -/
def height : Construction → Nat
  | ofRows _ rows => rows.length
  | single _ _ => 1
  | blank _ height _ => height
  | withBlock before _ _ => before.height

/-- The number of columns. -/
def width : Construction → Nat
  | ofRows _ rows => gridWidth rows
  | single _ _ => 1
  | blank _ _ width => width
  | withBlock before _ _ => before.width

/-- The rows stored last, and where; of blank cells none are stored. -/
def block : Construction → Position × List (List Value)
  | ofRows origin rows => (origin, rows)
  | single origin value => (origin, [[value]])
  | blank origin _ _ => (origin, [])
  | withBlock _ place rows => (place, rows)

/-- The value that rows at a place give to a position, if they reach there. -/
def blockAt? (place : Position) (rows : List (List Value)) (p : Position) : Option Value :=
  if place.row ≤ p.row && place.col ≤ p.col then
    rows[p.row - place.row]?.bind (·[p.col - place.col]?)
  else
    none

/-- The value given to a position by the block stored last; blank if it gives none. -/
def valueAt (c : Construction) (p : Position) : Value :=
  (blockAt? c.block.1 c.block.2 p).getD .blank

-- What is refused

/-- There are no cells, or the rows differ in length. -/
def Uneven (rows : List (List Value)) : Prop :=
  (rows = [] ∨ rows.head? = some []) ∨ ∃ row ∈ rows, row.length ≠ gridWidth rows

/-- The extent, or the last row or column that it leads to, cannot be counted. -/
def Misfit (origin : Position) (height width : Nat) : Prop :=
  (rowLimit ≤ height ∨ columnLimit ≤ width)
    ∨ rowLimit ≤ origin.row + (height - 1) ∨ columnLimit ≤ origin.col + (width - 1)

/-- Some rows at a place reach outside of a rectangle. -/
def Outside (place : Position) (rows : List (List Value)) (origin : Position) (height width : Nat)
    : Prop :=
  (place.row < origin.row ∨ origin.row + height < place.row + rows.length)
    ∨ place.col < origin.col ∨ origin.col + width < place.col + gridWidth rows

/-- A step of the construction is refused. -/
def Refused : Construction → Prop
  | ofRows origin rows => Uneven rows ∨ Misfit origin rows.length (gridWidth rows)
  | single _ _ => False
  | blank origin height width => (height = 0 ∨ width = 0) ∨ Misfit origin height width
  | withBlock before place rows =>
    before.Refused
    ∨ (Uneven rows ∨ Misfit place rows.length (gridWidth rows))
    ∨ Outside place rows before.origin before.height before.width

end Construction

namespace Area

open Construction

variable {a b : Area Value} {place origin : Position} {rows : List (List Value)}

/-- An area stores some rows at a place, and nothing else. -/
structure Stores (a : Area Value) (place : Position) (rows : List (List Value)) : Prop where
  row : place.row = a.origin.row + a.blockRow
  col : place.col = a.origin.col + a.blockCol
  count : a.blockHeight = rows.length
  even : ∀ row ∈ rows, row.length = a.blockWidth
  cells : a.cells = rows.flatten.toArray

/-- What is stored at an offset is what the rows give to the position there. -/
theorem Stores.stored?_eq (h : a.Stores place rows) (row col : Nat)
    : a.stored? row col = blockAt? place rows ⟨a.origin.row + row, a.origin.col + col⟩ := by
  have rowOffset : a.origin.row + row - place.row = row - a.blockRow := by
    rw [h.row]
    omega
  have colOffset : a.origin.col + col - place.col = col - a.blockCol := by
    rw [h.col]
    omega
  have first : (place.row ≤ a.origin.row + row ∧ place.col ≤ a.origin.col + col)
      ↔ a.blockRow ≤ row ∧ a.blockCol ≤ col := by
    rw [h.row, h.col]
    omega
  simp only [blockAt?, Bool.and_eq_true, decide_eq_true_eq, first, rowOffset, colOffset]
  by_cases inside : (a.blockRow ≤ row ∧ row - a.blockRow < a.blockHeight)
      ∧ (a.blockCol ≤ col ∧ col - a.blockCol < a.blockWidth)
  · obtain ⟨inRows, inCols⟩ := inside
    rw [stored?_of_inBlock inRows inCols, if_pos ⟨inRows.1, inCols.1⟩, h.cells,
      List.getElem?_toArray, getElem?_flatten_of_length h.even _ inCols.2]
  · rw [stored?_of_outside inside]
    split
    · next begun =>
      symm
      rw [Option.bind_eq_none_iff]
      intro line found
      have mem : line ∈ rows := List.mem_of_getElem? found
      have inRows : row - a.blockRow < rows.length := (List.getElem?_eq_some_iff.mp found).1
      rw [List.getElem?_eq_none_iff, h.even line mem]
      rw [h.count] at inside
      omega
    · rfl

theorem gridWidth_eq {width : Nat} (nonempty : rows ≠ []) (even : ∀ row ∈ rows, row.length = width)
    : gridWidth rows = width := by
  obtain ⟨row, rows, rfl⟩ := List.exists_cons_of_ne_nil nonempty
  exact even row List.mem_cons_self

theorem fits_iff {height width : Nat}
    : (height < rowLimit ∧ width < columnLimit) ∧ Fits origin height width
      ↔ ¬(height = 0 ∨ width = 0) ∧ ¬Misfit origin height width := by
  simp only [Misfit, not_or, Nat.not_le]
  constructor
  · rintro ⟨extent, tall, wide, lastRow, lastCol⟩
    omega
  · rintro ⟨nonempty, extent, last⟩
    exact ⟨extent, by omega, by omega, by omega, by omega⟩

theorem not_uneven_iff
    : ¬Uneven rows ↔ (rows.length ≠ 0 ∧ gridWidth rows ≠ 0)
      ∧ ∀ row ∈ rows, row.length = gridWidth rows := by
  cases rows with
  | nil => simp [Uneven]
  | cons row rows => simp [Uneven, gridWidth]

/-- Rows make up an area just if they are even and can be counted from the corner. -/
theorem ofRows_eq_ok_iff
    : ofRows origin rows = .ok a
      ↔ ¬(Uneven rows ∨ Misfit origin rows.length (gridWidth rows))
        ∧ a = dense origin rows (gridWidth rows) := by
  rw [ofRows_eq_ok, not_or, not_uneven_iff]
  constructor
  · rintro ⟨width, even, few, short, fits, rfl⟩
    have nonempty : rows ≠ [] := List.ne_nil_of_length_pos fits.tall
    obtain rfl := gridWidth_eq nonempty even
    obtain ⟨some, fitting⟩ := fits_iff.mp ⟨⟨few, short⟩, fits⟩
    exact ⟨⟨⟨not_or.mp some, even⟩, fitting⟩, rfl⟩
  · rintro ⟨⟨⟨some, even⟩, fitting⟩, rfl⟩
    obtain ⟨⟨few, short⟩, fits⟩ := fits_iff.mpr ⟨not_or.mpr some, fitting⟩
    exact ⟨_, even, few, short, fits, rfl⟩

/-- A block is stored just if it could be an area of its own and lies inside of this one. -/
theorem withBlock_eq_ok_iff (tall : 0 < a.height) (wide : 0 < a.width)
    : a.withBlock place rows = .ok b
      ↔ ¬(Uneven rows ∨ Misfit place rows.length (gridWidth rows))
        ∧ ¬Outside place rows a.origin a.height a.width
        ∧ b = { a with
            blockRow := place.row - a.origin.row
            blockCol := place.col - a.origin.col
            blockHeight := rows.length
            blockWidth := gridWidth rows
            cells := rows.flatten.toArray } := by
  have inside (fine : ¬(Uneven rows ∨ Misfit place rows.length (gridWidth rows)))
      : (a.containsRow (dense place rows (gridWidth rows)).origin.row
            && a.containsRow (dense place rows (gridWidth rows)).lastRow
            && a.containsCol (dense place rows (gridWidth rows)).origin.col
            && a.containsCol (dense place rows (gridWidth rows)).lastCol) = true
        ↔ ¬Outside place rows a.origin a.height a.width := by
    obtain ⟨⟨some, given⟩, _⟩ := not_uneven_iff.mp (not_or.mp fine).1
    simp only [Bool.and_eq_true, containsRow_iff, containsCol_iff, dense, lastRow, lastCol,
      Outside, not_or, Nat.not_lt]
    omega
  unfold withBlock
  rw [except_bind_eq_ok]
  constructor
  · rintro ⟨block, built, h⟩
    obtain ⟨fine, rfl⟩ := ofRows_eq_ok_iff.mp built
    split at h
    · next within =>
      cases h
      exact ⟨fine, (inside fine).mp within, rfl⟩
    · cases h
  · rintro ⟨fine, within, rfl⟩
    refine ⟨_, ofRows_eq_ok_iff.mpr ⟨fine, rfl⟩, ?_⟩
    rw [if_pos ((inside fine).mpr within)]
    rfl

end Area

namespace Construction

open Area

variable {c : Construction} {a : Area Value}

/-- An area is what a construction was to build. -/
structure Builds (c : Construction) (a : Area Value) : Prop where
  origin : a.origin = c.origin
  height : a.height = c.height
  width : a.width = c.width
  wellStored : a.WellStored
  stores : a.Stores c.block.1 c.block.2

theorem builds_ofRows {origin : Position} {rows : List (List Value)}
    (fine : ¬(Uneven rows ∨ Misfit origin rows.length (gridWidth rows)))
    : (ofRows origin rows).Builds (dense origin rows (gridWidth rows)) := by
  obtain ⟨uneven, fitting⟩ := not_or.mp fine
  obtain ⟨some, even⟩ := not_uneven_iff.mp uneven
  obtain ⟨_, fits⟩ := fits_iff.mpr ⟨not_or.mpr some, fitting⟩
  exact ⟨rfl, rfl, rfl, wellStored_dense even fits, rfl, rfl, rfl, even, rfl⟩

theorem builds_single {origin : Position} (value : Value)
    (countable : Countable origin.row origin.col)
    : (single origin value).Builds (Area.single origin value) := by
  have fits : Fits origin 1 1 := ⟨Nat.one_pos, Nat.one_pos, countable.1, countable.2⟩
  exact ⟨rfl, rfl, rfl, ⟨fits, Nat.le_refl _, Nat.le_refl _, rfl⟩, rfl, rfl, rfl, by
    simp [block, Area.single], rfl⟩

theorem builds_blank {origin : Position} {height width : Nat} (fits : Fits origin height width)
    : (blank origin height width).Builds (unstored origin height width) :=
  ⟨rfl, rfl, rfl, wellStored_unstored fits, rfl, rfl, rfl, by simp [block], rfl⟩

/-- A block inside an area takes the place of the one that was stored before. -/
theorem Builds.withBlock {place : Position} {rows : List (List Value)} {b : Area Value}
    (before : c.Builds a) (stored : a.withBlock place rows = .ok b)
    : (c.withBlock place rows).Builds b := by
  have fits := before.wellStored.fits
  obtain ⟨fine, within, rfl⟩ := (withBlock_eq_ok_iff fits.tall fits.wide).mp stored
  obtain ⟨_, even⟩ := not_uneven_iff.mp (not_or.mp fine).1
  simp only [Outside, not_or, Nat.not_lt] at within
  refine ⟨before.origin, before.height, before.width, before.wellStored.withBlock stored, ?_, ?_,
    rfl, even, rfl⟩
  · simp only [block]
    omega
  · simp only [block]
    omega

/-- What was built takes a block just if that is no step to refuse. -/
theorem Builds.exists_withBlock_iff {place : Position} {rows : List (List Value)}
    (before : c.Builds a)
    : (∃ b, a.withBlock place rows = .ok b)
      ↔ ¬((Uneven rows ∨ Misfit place rows.length (gridWidth rows))
        ∨ Outside place rows c.origin c.height c.width) := by
  have fits := before.wellStored.fits
  simp only [withBlock_eq_ok_iff fits.tall fits.wide, before.origin, before.height, before.width]
  constructor
  · rintro ⟨b, fine, within, _⟩
    exact not_or.mpr ⟨fine, within⟩
  · intro fine
    obtain ⟨fine, within⟩ := not_or.mp fine
    exact ⟨_, fine, within, rfl⟩

/-- What is built is what was to be built, by induction on the steps. -/
theorem builds_of_build (given : c.Given) (built : c.build = .ok a) : c.Builds a := by
  induction c generalizing a with
  | ofRows origin rows =>
    obtain ⟨fine, rfl⟩ := ofRows_eq_ok_iff.mp built
    exact builds_ofRows fine
  | single origin value =>
    cases built
    exact builds_single value given
  | blank origin height width =>
    obtain ⟨fits, rfl⟩ := blank_eq_ok.mp built
    exact builds_blank fits
  | withBlock before place rows ih =>
    obtain ⟨b, built, stored⟩ := except_bind_eq_ok.mp built
    exact (ih given.1 built).withBlock stored

/-- Nothing else is built, and nothing less, than what no step of is refused; by induction on the
steps.
-/
theorem exists_build_iff (given : c.Given) : (∃ a, c.build = .ok a) ↔ ¬c.Refused := by
  induction c with
  | ofRows origin rows =>
    simp only [build, Refused, ofRows_eq_ok_iff]
    exact ⟨fun ⟨_, fine, _⟩ => fine, fun fine => ⟨_, fine, rfl⟩⟩
  | single origin value =>
    simp [build, Refused]
  | blank origin height width =>
    simp only [build, Refused, blank_eq_ok, not_or (p := _ ∨ _), ← fits_iff]
    exact ⟨fun ⟨_, fits, _⟩ => ⟨given.2, fits⟩, fun ⟨_, fits⟩ => ⟨_, fits, rfl⟩⟩
  | withBlock before place rows ih =>
    simp only [build, Refused, except_bind_eq_ok, not_or (p := before.Refused), ← ih given.1]
    constructor
    · rintro ⟨b, a, built, stored⟩
      have before := builds_of_build given.1 built
      exact ⟨⟨a, built⟩, before.exists_withBlock_iff.mp ⟨b, stored⟩⟩
    · rintro ⟨⟨a, built⟩, fine⟩
      have before := builds_of_build given.1 built
      obtain ⟨b, stored⟩ := before.exists_withBlock_iff.mpr fine
      exact ⟨b, a, built, stored⟩

-- What is shown

/-- What an area shows inside of it is the value given by the block stored last, or blank. -/
theorem Builds.getD_stored? (h : c.Builds a) (row col : Nat)
    : (a.stored? row col).getD .blank = c.valueAt ⟨a.origin.row + row, a.origin.col + col⟩ := by
  rw [h.stores.stored?_eq, valueAt]

theorem Builds.absolute?_eq (h : c.Builds a) (p : Position)
    : a.absolute? p
      = if a.containsRow p.row && a.containsCol p.col then some (c.valueAt p) else none := by
  rw [absolute?]
  split
  · next within =>
    have fits := h.wellStored.fits
    have tall := fits.tall
    have wide := fits.wide
    simp only [Bool.and_eq_true, containsRow_iff, containsCol_iff] at within
    obtain ⟨⟨top, bottom⟩, left, right⟩ := within
    rw [relative?_of_lt (by omega) (by omega), h.getD_stored?, Nat.add_sub_cancel' top,
      Nat.add_sub_cancel' left]
  · rfl

theorem relative?_eq (a : Area Value) (row col : Nat)
    : a.relative? row col
      = if row < a.height ∧ col < a.width then
          a.absolute? ⟨a.origin.row + row, a.origin.col + col⟩
        else none := by
  split
  · next within => exact (absolute?_offset within.1 within.2).symm
  · next outside => exact relative?_of_outside outside

/-- The cells of an area come row by row, each with what the area shows there. -/
theorem Builds.entries_eq (h : c.Builds a)
    : a.entries = (List.range a.height).flatMap fun row =>
        (List.range a.width).map fun col =>
          (⟨a.origin.row + row, a.origin.col + col⟩,
            c.valueAt ⟨a.origin.row + row, a.origin.col + col⟩) := by
  have full : a.entries.length = a.height * a.width := by
    simp [entries, firstEntries, cellCount]
  refine (eq_flatMap_of_length full (a.origin, .blank)).trans
    (List.flatMap_congr fun row inRows => List.map_congr_left fun col inCols => ?_)
  rw [List.mem_range] at inRows inCols
  have wide : 0 < a.width := Nat.zero_lt_of_lt inCols
  have index : row * a.width + col < a.height * a.width := by
    calc row * a.width + col
      _ < row * a.width + a.width := Nat.add_lt_add_left inCols _
      _ = (row + 1) * a.width := (Nat.succ_mul _ _).symm
      _ ≤ a.height * a.width := Nat.mul_le_mul_right _ inRows
  have line : (row * a.width + col) / a.width = row := by
    rw [Nat.mul_comm, Nat.mul_add_div wide, Nat.div_eq_of_lt inCols, Nat.add_zero]
  have place : (row * a.width + col) % a.width = col := by
    rw [Nat.mul_comm, Nat.mul_add_mod, Nat.mod_eq_of_lt inCols]
  simp [entries, firstEntries, cellCount, index, positionAt, Area.valueAt, line, place,
    h.getD_stored?]

/-- No position comes twice. -/
theorem nodup_entries (a : Area Value) : (a.entries.map Prod.fst).Nodup := by
  rw [entries, firstEntries, List.map_map]
  refine List.nodup_range.map fun i j same => ?_
  simp only [Function.comp_apply, positionAt, Position.mk.injEq] at same
  obtain ⟨lines, places⟩ := same
  rw [← Nat.div_add_mod i a.width, ← Nat.div_add_mod j a.width, Nat.add_left_cancel lines,
    Nat.add_left_cancel places]

theorem Builds.mem_entries_iff (h : c.Builds a) (p : Position)
    : p ∈ a.entries.map Prod.fst ↔ a.containsRow p.row ∧ a.containsCol p.col := by
  have fits := h.wellStored.fits
  have tall := fits.tall
  have wide := fits.wide
  rw [h.entries_eq, containsRow_iff, containsCol_iff]
  simp only [List.map_flatMap, List.map_map, List.mem_flatMap, List.mem_map, List.mem_range,
    Function.comp_apply]
  constructor
  · rintro ⟨row, inRows, col, inCols, rfl⟩
    dsimp only
    omega
  · rintro ⟨⟨top, bottom⟩, left, right⟩
    refine ⟨p.row - a.origin.row, by omega, p.col - a.origin.col, by omega, ?_⟩
    rw [Nat.add_sub_cancel' top, Nat.add_sub_cancel' left]

/-- An area is kept as it has to be, and can be read like a grid of the values given to it. -/
structure Faithful (c : Construction) (a : Area Value) : Prop where
  extent : a.origin = c.origin ∧ a.height = c.height ∧ a.width = c.width
  positive : 0 < a.height ∧ 0 < a.width
  countable : a.lastRow < rowLimit ∧ a.lastCol < columnLimit
  inside : a.blockRow + a.blockHeight ≤ a.height ∧ a.blockCol + a.blockWidth ≤ a.width
  full : a.cells.size = a.blockHeight * a.blockWidth
  absolute : ∀ p, a.absolute? p
    = if a.containsRow p.row && a.containsCol p.col then some (c.valueAt p) else none
  relative : ∀ row col, a.relative? row col
    = if row < a.height ∧ col < a.width then
        a.absolute? ⟨a.origin.row + row, a.origin.col + col⟩
      else none
  rowByRow : a.entries = (List.range a.height).flatMap fun row =>
    (List.range a.width).map fun col =>
      (⟨a.origin.row + row, a.origin.col + col⟩,
        c.valueAt ⟨a.origin.row + row, a.origin.col + col⟩)
  once : (a.entries.map Prod.fst).Nodup
  everywhere : ∀ p,
    p ∈ a.entries.map Prod.fst ↔ a.containsRow p.row ∧ a.containsCol p.col

theorem Builds.faithful (h : c.Builds a) : c.Faithful a := by
  have fits := h.wellStored.fits
  have tall := fits.tall
  have wide := fits.wide
  have lastRow := fits.lastRow
  have lastCol := fits.lastCol
  exact {
    extent := ⟨h.origin, h.height, h.width⟩
    positive := ⟨tall, wide⟩
    countable := by
      simp only [Area.lastRow, Area.lastCol]
      omega
    inside := ⟨h.wellStored.rows, h.wellStored.cols⟩
    full := h.wellStored.full
    absolute := h.absolute?_eq
    relative := relative?_eq a
    rowByRow := h.entries_eq
    once := nodup_entries a
    everywhere := h.mem_entries_iff }

/-- A construction fails just if one of its steps is refused, and the area that it builds otherwise
is the one that was described.
-/
theorem build_faithful (c : Construction) (given : c.Given)
    : ((∃ e, c.build = .error e) ↔ c.Refused) ∧ ∀ a, c.build = .ok a → c.Faithful a := by
  refine ⟨?_, fun a built => (builds_of_build given built).faithful⟩
  rw [← not_iff_not, ← exists_build_iff given]
  cases c.build <;> simp

/-- A block in the middle of blank cells. -/
theorem build_faithful_padded
    : let c : Construction := .withBlock (.blank ⟨1, 1⟩ 3 2) ⟨2, 1⟩ [[.boolean true, .text "x"]]
      c.Given
        ∧ ∃ a, c.build = .ok a
          ∧ c.Faithful a
          ∧ a.absolute? ⟨2, 2⟩ = some (.text "x")
          ∧ a.absolute? ⟨3, 2⟩ = some .blank
          ∧ a.absolute? ⟨4, 2⟩ = none := by
  intro c
  have given : c.Given := by
    simp [c, Given, Countable, rowLimit, columnLimit]
  let a : Area Value := ⟨⟨1, 1⟩, 3, 2, 1, 0, 1, 2, #[.boolean true, .text "x"]⟩
  have built : c.build = .ok a := rfl
  have faithful := (build_faithful c given).2 a built
  exact ⟨given, a, built, faithful, faithful.absolute ⟨2, 2⟩, faithful.absolute ⟨3, 2⟩,
    faithful.absolute ⟨4, 2⟩⟩

end Construction

end Spreadsheet
