import Spreadsheet.Proofs.Evaluation.Reference

/-! A range that is read as an area shows at each of its cells what a reference to that cell
alone evaluates to. Nothing is assumed of where the range lies: that it could be read is enough.
-/

namespace Spreadsheet

/-- Rows and columns can be counted up to the position. -/
def Position.Countable (p : Position) : Prop :=
  p.row < rowLimit ∧ p.col < columnLimit

theorem Position.InGrid.countable {p : Position} (h : p.InGrid) : p.Countable := by
  obtain ⟨row, col⟩ := h
  simp only [maxRows, maxColumns] at row col
  constructor
  · simp only [rowLimit]
    omega
  · simp only [columnLimit]
    omega

-- What a reading that succeeds has gone through

namespace Reading

variable {α β : Type} {a : α} {b : β}

theorem lift_eq_pure {x : Except AreaError α}
    : (ExceptT.lift x : Reading α) = pure a ↔ x = .ok a := by
  cases x with
  | error e => exact ⟨fun h => (nomatch h), fun h => (nomatch h)⟩
  | ok b =>
    constructor
    · intro h
      cases h
      rfl
    · intro h
      cases h
      rfl

theorem bind_eq_pure {reading : Reading α} {next : α → Reading β}
    : reading >>= next = pure b ↔ ∃ a, reading = pure a ∧ next a = pure b := by
  have run : (reading >>= next).run = reading.run >>= ExceptT.bindCont next := rfl
  constructor
  · intro h
    match read : reading with
    | .error e => cases h
    | .ok (.error e) => cases h
    | .ok (.ok a) => exact ⟨a, rfl, h⟩
  · intro h
    obtain ⟨a, rfl, h⟩ := h
    exact h

/-- A run over a list succeeds if every step does, by induction on the list. -/
theorem mapM_eq_pure {f : α → Reading β} {xs : List α} {ys : List β}
    : xs.mapM f = pure ys ↔ List.Forall₂ (fun x y => f x = pure y) xs ys := by
  induction xs generalizing ys with
  | nil =>
    rw [List.forall₂_nil_left_iff]
    constructor
    · intro h
      cases h
      rfl
    · rintro rfl
      rfl
  | cons x xs ih =>
    rw [List.mapM_cons, bind_eq_pure, List.forall₂_cons_left_iff]
    constructor
    · rintro ⟨y, first, h⟩
      obtain ⟨others, rest, h⟩ := bind_eq_pure.mp h
      cases h
      exact ⟨y, others, first, ih.mp rest, rfl⟩
    · rintro ⟨y, others, first, rest, rfl⟩
      exact ⟨y, first, bind_eq_pure.mpr ⟨others, ih.mpr rest, rfl⟩⟩

end Reading

/-- Every cell of a range can be counted if the range as a whole can. -/
theorem Area.Fits.countable {r : Range} {p : Position}
    (fits : Area.Fits r.first.position r.rowCount r.colCount) (inside : r.contains p)
    : p.Countable := by
  have lastRow := fits.lastRow
  have lastCol := fits.lastCol
  rw [Range.contains_iff] at inside
  simp only [Address.position, Range.rowCount, Range.colCount] at lastRow lastCol
  constructor <;> omega

theorem Range.fits_single {a : Address} (countable : a.position.Countable)
    : Area.Fits (single a).first.position (single a).rowCount (single a).colCount := by
  obtain ⟨row, col⟩ := countable
  rw [rowCount_single, colCount_single]
  exact ⟨Nat.one_pos, Nat.one_pos, row, col⟩

namespace Sheet

variable {sheet : Sheet} {r : Range} {area : Area Value}

/-- What is read of a range is the range with one part stored, or with nothing stored; what is
not stored is empty.
-/
theorem area_eq_pure_cases (read : sheet.area r = pure area)
    : Area.Fits r.first.position r.rowCount r.colCount
      ∧ ((area = .unstored r.first.position r.rowCount r.colCount
          ∧ ∀ p, r.contains p → sheet.get p = .empty)
        ∨ ∃ part, area = sheet.areaWith r part ∧ r.contains part.first.position
          ∧ r.contains part.last.position
          ∧ ∀ p, r.contains p → ¬part.contains p → sheet.get p = .empty) := by
  have width_eq {part : Range} {width : Nat}
      (even : ∀ row ∈ sheet.values part, row.length = width)
      : width = part.colCount :=
    width_unique (length_values ▸ Nat.succ_pos _) even length_of_mem_values
  unfold Sheet.area at read
  split at read
  · obtain ⟨width, even, _, _, fits, rfl⟩ := Area.ofRows_eq_ok.mp (Reading.lift_eq_pure.mp read)
    obtain rfl := width_eq even
    rw [length_values] at fits
    refine ⟨fits, .inr ⟨r, dense_values, Range.contains_first, Range.contains_last, ?_⟩⟩
    exact fun p inside outside => absurd inside outside
  · obtain ⟨blank, built, read⟩ := Reading.bind_eq_pure.mp read
    obtain ⟨fits, rfl⟩ := Area.blank_eq_ok.mp (Reading.lift_eq_pure.mp built)
    refine ⟨fits, ?_⟩
    split at read
    · next unused =>
      cases read
      exact .inl ⟨rfl, fun p => get_eq_empty_of_inter_none unused⟩
    · next part found =>
      split at read
      · cases read
      · obtain ⟨width, even, rfl⟩ := Area.exists_of_withBlock (Reading.lift_eq_pure.mp read)
        obtain rfl := width_eq even
        obtain ⟨used, _, shared⟩ := Option.bind_eq_some_iff.mp found
        refine .inr ⟨part, ?_, ?_, ?_, fun p => get_eq_empty_of_inter_some found⟩
        · simp only [Area.unstored, areaWith, length_values, Address.position]
        · exact ((Range.contains_inter? shared).mp Range.contains_first).2
        · exact ((Range.contains_inter? shared).mp Range.contains_last).2

/-- An area that was read shows the sheet. -/
theorem shows_of_area (read : sheet.area r = pure area) : area.Shows sheet r := by
  rcases (area_eq_pure_cases read).2 with ⟨rfl, empty⟩ | ⟨part, rfl, first, _, rest⟩
  · exact shows_unstored empty
  · exact shows_areaWith first rest

/-- A single cell can be read wherever rows and columns can be counted. -/
theorem area_single {a : Address} (countable : a.position.Countable)
    : sheet.area (.single a) = pure (sheet.areaWith (.single a) (.single a)) := by
  refine area_of_fits ?_ (Range.fits_single countable) ?_
  · rw [Range.cellCount, Range.rowCount_single, Range.colCount_single]
    decide
  · rw [Range.colCount_single]
    decide

theorem get_blank (name : String) (p : Position) : (Sheet.blank name).get p = .empty :=
  get_eq_empty_of_not_mem Cells.not_mem_empty

end Sheet

/-- The area that a range has on the sheet at an index. -/
def Workbook.areaAt (book : Workbook) (r : Range) (index : Nat) : Reading (Area Value) :=
  match book.sheets[index]? with
  | some sheet => sheet.area r
  | none => throw .ref

theorem Workbook.areaAt_eq_pure {book : Workbook} {r : Range} {index : Nat} {area : Area Value}
    : book.areaAt r index = pure area
      ↔ ∃ sheet, book.sheets[index]? = some sheet ∧ sheet.area r = pure area := by
  unfold areaAt
  split
  · next sheet found => simp [found]
  · next missing =>
    rw [missing]
    exact ⟨fun h => (nomatch h), fun ⟨_, h, _⟩ => (nomatch h)⟩

/-- At an offset within the range, an area shows what the sheet holds there. -/
theorem Area.Shows.relative? {area : Area Value} {sheet : Sheet} {r : Range}
    (shows_ : area.Shows sheet r) (row col : Nat)
    : area.relative? row col = if row < r.rowCount ∧ col < r.colCount
        then some (.ofContent (sheet.get ⟨r.first.row + row, r.first.col + col⟩)) else none := by
  split
  · next within =>
    have shown := shows_.cells _ (Range.contains_offset.mpr within)
    have offset : area.absolute? ⟨area.origin.row + row, area.origin.col + col⟩
        = area.relative? row col :=
      absolute?_offset (shows_.height ▸ within.1) (shows_.width ▸ within.2)
    rw [shows_.origin] at offset
    exact offset.symm.trans shown
  · next outside =>
    rw [Area.relative?, if_neg]
    simpa [shows_.height, shows_.width] using outside

/-- The corner of an area shows what the sheet holds there. -/
theorem Area.Shows.relative?_corner {area : Area Value} {sheet : Sheet} {a : Address}
    (shows_ : area.Shows sheet (.single a))
    : area.relative? 0 0 = some (.ofContent (sheet.get a.position)) := by
  rw [shows_.relative?, Range.rowCount_single, Range.colCount_single, if_pos (by decide)]
  rfl

namespace Context

variable {ctx : Context} {book : Workbook} {ref : Option SheetRef} {r : Range} {area : Area Value}

/-- Areas are read from the sheets of a reference one by one. -/
theorem areas_of_book (inBook : ctx.book = some book)
    : ctx.areas ref r
      = ExceptT.mk (.ok (ctx.sheets book ref)) >>= fun indices => indices.mapM (book.areaAt r) := by
  rw [areas, inBook]
  rfl

theorem areas_eq_pure {areas : List (Area Value)} (inBook : ctx.book = some book)
    : ctx.areas ref r = pure areas ↔ ∃ indices, ctx.sheets book ref = .ok indices
      ∧ List.Forall₂ (fun i area => book.areaAt r i = pure area) indices areas := by
  rw [areas_of_book inBook, Reading.bind_eq_pure]
  constructor
  · rintro ⟨indices, found, read⟩
    exact ⟨indices, Except.ok.inj found, Reading.mapM_eq_pure.mp read⟩
  · rintro ⟨indices, found, read⟩
    exact ⟨indices, congrArg Except.ok found, Reading.mapM_eq_pure.mpr read⟩

/-- Without a workbook every range is blank. -/
theorem areas_eq_blank (noBook : ctx.book = none)
    : ctx.areas ref r = ExceptT.lift r.blankArea >>= fun area => pure [area] := by
  rw [areas, noBook]

theorem areas_of_noBook (noBook : ctx.book = none)
    : ctx.areas ref r = pure [area]
      ↔ Area.Fits r.first.position r.rowCount r.colCount
        ∧ area = .unstored r.first.position r.rowCount r.colCount := by
  rw [areas_eq_blank noBook, Reading.bind_eq_pure, ← Area.blank_eq_ok]
  constructor
  · rintro ⟨_, built, same⟩
    cases same
    exact Reading.lift_eq_pure.mp built
  · intro built
    exact ⟨area, Reading.lift_eq_pure.mpr built, rfl⟩

/-- What a reading comes to is a result or an error value. -/
theorem readValue_eq_ok {reading : Reading Value} {value : Value}
    : readValue reading = .ok value
      ↔ reading = pure value ∨ ∃ e, reading = throw e ∧ value = .error e := by
  rw [readValue, except_map_eq_ok]
  constructor
  · rintro ⟨x, read, rfl⟩
    cases x with
    | error e => exact .inr ⟨e, read, rfl⟩
    | ok value => exact .inl read
  · rintro (rfl | ⟨e, rfl, rfl⟩)
    · exact ⟨_, rfl, rfl⟩
    · exact ⟨_, rfl, rfl⟩

theorem readValue_eq_area {reading : Reading Value}
    : readValue reading = .ok (.area area) ↔ reading = pure (.area area) := by
  simp [readValue_eq_ok]

/-- A range is an area if it lies on a single sheet, and can be read there. -/
theorem rangeValue_eq_area
    : ctx.rangeValue ref r = .ok (.area area) ↔ ctx.areas ref r = pure [area] := by
  rw [rangeValue, readValue_eq_area, Reading.bind_eq_pure]
  constructor
  · rintro ⟨areas, read, same⟩
    split at same
    · cases same
      exact read
    · cases same
  · intro read
    exact ⟨[area], read, rfl⟩

theorem rangeValue_of_area {sheet : Sheet} (inBook : ctx.book = some book)
    (present : book.sheets[ctx.sheet]? = some sheet) (read : sheet.area r = pure area)
    : ctx.rangeValue none r = .ok (.area area) := by
  refine rangeValue_eq_area.mpr ((areas_eq_pure inBook).mpr ⟨[ctx.sheet], rfl, ?_⟩)
  exact .cons (Workbook.areaAt_eq_pure.mpr ⟨sheet, present, read⟩) .nil

theorem rangeValue_of_error {sheet : Sheet} {e : CellError} (inBook : ctx.book = some book)
    (present : book.sheets[ctx.sheet]? = some sheet) (read : sheet.area r = throw e)
    : ctx.rangeValue none r = .ok (.error e) := by
  have failed : book.areaAt r ctx.sheet = throw e := by
    rw [Workbook.areaAt, present]
    exact read
  have areas : ctx.areas none r = throw e := by
    rw [areas_of_book inBook]
    change [ctx.sheet].mapM (book.areaAt r) = throw e
    rw [List.mapM_cons, failed]
    rfl
  rw [rangeValue, areas]
  rfl

/-- A cell on a single sheet is what its area shows. -/
theorem cellValue_of_areas {a : Address} (read : ctx.areas ref (.single a) = pure [area])
    : ctx.cellValue ref a = .ok ((area.relative? 0 0).getD .blank) := by
  rw [cellValue, read]
  rfl

/-- A single cell that was read as an area of its own shows what the sheet holds there. -/
theorem cellValue_of_shows {sheet : Sheet} {a : Address}
    (read : ctx.areas ref (.single a) = pure [area]) (shows_ : area.Shows sheet (.single a))
    : ctx.cellValue ref a = .ok (.ofContent (sheet.get a.position)) := by
  rw [cellValue_of_areas read, shows_.relative?_corner]
  rfl

/-- Behind a range that is an area stands a sheet, which the area shows and to whose cells the
same reference leads. Without a workbook it is blank.
-/
theorem exists_sheet_of_rangeValue (read : ctx.rangeValue ref r = .ok (.area area))
    : ∃ sheet : Sheet, area.Shows sheet r
      ∧ Area.Fits r.first.position r.rowCount r.colCount
      ∧ ∀ a : Address, a.position.Countable
        → ctx.cellValue ref a = .ok (.ofContent (sheet.get a.position)) := by
  have read := rangeValue_eq_area.mp read
  cases inBook : ctx.book with
  | none =>
    obtain ⟨fits, rfl⟩ := (areas_of_noBook inBook).mp read
    have empty (r : Range) (p : Position) (_ : r.contains p) := Sheet.get_blank "" p
    refine ⟨.blank "", Sheet.shows_unstored (empty r), fits, fun a countable => ?_⟩
    have single : ctx.areas ref (.single a) = pure [_] :=
      (areas_of_noBook inBook).mpr ⟨Range.fits_single countable, rfl⟩
    exact cellValue_of_shows single (Sheet.shows_unstored (empty _))
  | some book =>
    obtain ⟨indices, found, reads⟩ := (areas_eq_pure inBook).mp read
    obtain ⟨index, _, first, rest, rfl⟩ := List.forall₂_cons_right_iff.mp reads
    obtain rfl := List.forall₂_nil_right_iff.mp rest
    obtain ⟨sheet, present, read⟩ := Workbook.areaAt_eq_pure.mp first
    refine ⟨sheet, Sheet.shows_of_area read, (Sheet.area_eq_pure_cases read).1, ?_⟩
    intro a countable
    have single := (areas_eq_pure inBook).mpr ⟨_, found, .cons
      (Workbook.areaAt_eq_pure.mpr ⟨sheet, present, Sheet.area_single countable⟩) .nil⟩
    exact cellValue_of_shows single (Sheet.shows_of_area (Sheet.area_single countable))

end Context

end Spreadsheet
