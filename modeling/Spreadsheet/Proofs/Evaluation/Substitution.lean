import Spreadsheet.Proofs.Book.DefinedName
import Spreadsheet.Proofs.Evaluation.SheetByName
import Spreadsheet.Proofs.Evaluation.Termination

/-! A name may be replaced by what it stands for. Only as a member of a union, where the areas of
a reference are asked for and not its value, a name of a single cell is not as good as the cell.
-/

namespace Spreadsheet

namespace Context

variable {ctx : Context} {book book' : Workbook} {depth : Nat} {n text : String} {d e : Expr}

/-- A name that was defined for the whole workbook stands for its text. -/
theorem defines_of_defineName (done : book.defineName n text .workbook = .ok book')
    (inBook : ctx.book = some book') (free : book.names.find? n (.sheet ctx.sheet) = none)
    (parsed : Expr.parse (DefinedName.ofText n text .workbook).formula = .ok d)
    : ctx.Defines n d := by
  obtain ⟨names, defined, rfl⟩ := Workbook.defineName_eq_ok.mp done
  have found : names.get? n ctx.sheet = some (.ofText n text .workbook) :=
    NameTable.get?_of_define (d := .ofText n text .workbook) defined rfl free
  refine ⟨.ofText n text .workbook, ?_, parsed⟩
  rw [definition?, inBook]
  exact found

-- Unions

/-- A first member that comes to an error is what the union comes to. -/
theorem evaluateAt_union_error {left right : Expr} {cause : CellError}
    (first : (Expr.memberAreas ctx left fun _ => ctx.evaluateAt depth left) = .ok (.error cause))
    : ctx.evaluateAt depth (.union left right) = .ok (.error cause) := by
  rw [evaluateAt_eq_step, step, first]
  rfl

/-- Members that come to areas make up a union. -/
theorem evaluateAt_union_areas {left right : Expr} {areas more : List (Area Value)}
    (first : (Expr.memberAreas ctx left fun _ => ctx.evaluateAt depth left) = .ok (.ok areas))
    (second : (Expr.memberAreas ctx right fun _ => ctx.evaluateAt depth right) = .ok (.ok more))
    : ctx.evaluateAt depth (.union left right) = .ok (.union (areas ++ more)) := by
  rw [evaluateAt_eq_step, step, first]
  change Except.bind _ _ = _
  rw [second]
  rfl

theorem memberAreas_cell {ref : Option SheetRef} {a : Address} {areas : List (Area Value)}
    {value : Unit → Evaluation Value} (read : ctx.areas ref (.single a) = pure areas)
    : Expr.memberAreas ctx (.cell ref a) value = .ok (.ok areas) := by
  rw [Expr.memberAreas, read]
  rfl

theorem memberAreas_name {value : Value} (run : ctx.evaluateAt depth (.name n) = .ok value)
    : (Expr.memberAreas ctx (.name n) fun _ => ctx.evaluateAt depth (.name n))
      = .ok (Expr.areasOf value) := by
  change (ctx.evaluateAt depth (.name n)).map Expr.areasOf = _
  rw [run]
  rfl

/-- Values that are no areas do not tell any. -/
theorem exists_areasOf_of_isPlain {value : Value} (plain : value.IsPlain)
    : ∃ cause, Expr.areasOf value = .error cause := by
  cases value with
  | area a => cases plain
  | union areas => cases plain
  | error cause => exact ⟨cause, rfl⟩
  | _ => exact ⟨.value, rfl⟩

-- Names and what they stand for

/-- The value of a name goes like that of what it stands for. -/
theorem extends_evaluateWithin_of_defines (defines : ctx.Defines n d)
    : (ctx.nameValue depth n).Extends (ctx.evaluateWithin depth d) := by
  obtain ⟨definition, found, parsed⟩ := defines
  cases depth with
  | zero => exact .inl (nameValue_zero found)
  | succ depth =>
    rw [nameValue_succ found parsed]
    exact extends_evaluateWithin (Nat.le_succ depth) d

/-- Replacing a name by what it stands for gives the same result, inside any number of names and
unless the evaluation is cut off. What may not be replaced is a name of a single cell as a member
of a union.
-/
theorem evaluateAt_replaceName (defines : ctx.Defines n d)
    (apart : e.HasMember (.name n) → ¬d.ReadsCell ctx)
    (whole : ctx.evaluateAt depth e ≠ .error .circularReference)
    : ctx.evaluateAt depth (e.replaceName n d) = ctx.evaluateAt depth e := by
  have followed : (ctx.evaluateAt depth e).Extends (ctx.evaluateAt depth (e.replaceName n d)) := by
    refine Expr.extends_mapNames e (fun m _ => ?_) fun m member => ?_
    · split
      · next same => exact same ▸ extends_evaluateWithin_of_defines defines
      · exact Evaluation.extends_refl _
    · split
      · next same => exact apart (same ▸ member)
      · exact id
  exact followed.resolve_left whole

/-- A name of a range may be replaced even as a member of a union. -/
theorem evaluateAt_replaceName_range
    : let d : Expr := .range none (.ofPositions ⟨0, 0⟩ ⟨1, 0⟩)
      let other : Address := { row := 0, col := 1 }
      ∃ book, Workbook.new.defineName "Prices" "A1:A2" .workbook = .ok book
        ∧ let ctx : Context := { book := some book }
          ∃ areas, ctx.evaluate (.union (.name "Prices") (.cell none other)) = .ok (.union areas)
            ∧ ctx.evaluate (.union d (.cell none other)) = .ok (.union areas) := by
  intro d other
  obtain ⟨names, done⟩ : ∃ names, Workbook.new.defineName "Prices" "A1:A2" .workbook
      = .ok { Workbook.new with names } :=
    Workbook.exists_defineName rfl (by decide +kernel) _
  refine ⟨_, done, ?_⟩
  intro ctx
  have defines : ctx.Defines "Prices" d :=
    defines_of_defineName done rfl Std.HashMap.getElem?_empty (by with_unfolding_all rfl)
  let sheet : Sheet := .blank "Sheet1"
  let prices : Range := .ofPositions ⟨0, 0⟩ ⟨1, 0⟩
  have read : sheet.area prices = pure (sheet.areaWith prices prices) :=
    Sheet.area_of_small (by decide) ⟨by decide, by decide⟩
  have value : ctx.evaluateAt 0 (.name "Prices") = .ok (.area (sheet.areaWith prices prices)) := by
    have run : ctx.evaluateAt 1 d
        = (ctx.rangeValue none prices).mapError fun e => .operation (.area e) := rfl
    rw [evaluateAt_of_defines (by decide) defines, run, rangeValue_of_area rfl rfl read]
    rfl
  have cell : ctx.areas none (.single other) = pure [_] :=
    areas_of_sheets rfl rfl rfl ⟨by decide, by decide⟩
  have run := evaluateAt_union_areas (memberAreas_name value) (memberAreas_cell cell)
  refine ⟨_, run, ?_⟩
  refine (evaluateAt_replaceName (e := .union (.name "Prices") (.cell none other)) defines
    (fun _ => id) ?_).trans run
  rw [run]
  nofun

/-- What a single cell that is read evaluates to is what some sheet holds there. -/
theorem evaluateAt_of_readsCell (single : d.ReadsCell ctx)
    : ∃ content, ctx.evaluateAt depth d = .ok (.ofContent content) := by
  cases d with
  | cell ref a =>
    obtain ⟨area, read⟩ := single
    obtain ⟨sheet, shows_, _⟩ := exists_sheet_of_rangeValue (rangeValue_eq_area.mpr read)
    have run : ctx.evaluateAt depth (.cell ref a)
        = (ctx.cellValue ref a).mapError fun e => .operation (.area e) := rfl
    rw [run, cellValue_of_shows read shows_]
    exact ⟨_, rfl⟩
  | _ => cases single

/-- What may not be replaced makes a difference: a union that starts with a name of a single cell
is an error, and one that starts with the cell has its area.
-/
theorem evaluateAt_union_of_readsCell {right : Expr} {more : List (Area Value)}
    (defines : ctx.Defines n d) (single : d.ReadsCell ctx) (shallow : depth < maxNameDepth)
    (second : (Expr.memberAreas ctx right fun _ => ctx.evaluateAt depth right) = .ok (.ok more))
    : (∃ cause, ctx.evaluateAt depth (.union (.name n) right) = .ok (.error cause))
      ∧ ∃ area, ctx.evaluateAt depth (.union d right) = .ok (.union (area :: more)) := by
  constructor
  · obtain ⟨content, run⟩ : ∃ content, ctx.evaluateAt (depth + 1) d = .ok (.ofContent content) :=
      evaluateAt_of_readsCell single
    rw [← evaluateAt_of_defines shallow defines] at run
    obtain ⟨cause, scalar⟩ := exists_areasOf_of_isPlain (Value.isPlain_ofContent content)
    exact ⟨cause, evaluateAt_union_error (scalar ▸ memberAreas_name run)⟩
  · cases d with
    | cell ref a =>
      obtain ⟨area, read⟩ := single
      exact ⟨area, evaluateAt_union_areas (memberAreas_cell read) second⟩
    | _ => cases single

/-- A name of a single cell makes a union an error, and the cell itself does not. -/
theorem evaluate_replaceName_ne
    : let price : Address := { row := 0, col := 0, rowAbsolute := true, colAbsolute := true }
      let d : Expr := .cell (some { first := "Sheet1" }) price
      let other : Address := { row := 0, col := 1 }
      let e : Expr := .union (.name "Price") (.cell none other)
      ∃ book, Workbook.new.defineName "Price" "Sheet1!$A$1" .workbook = .ok book
        ∧ let ctx : Context := { book := some book }
          ctx.Defines "Price" d
            ∧ ctx.evaluate e = .ok (.error .value)
            ∧ ∃ areas, ctx.evaluate (e.replaceName "Price" d) = .ok (.union areas) := by
  intro price d other e
  obtain ⟨names, done⟩ : ∃ names, Workbook.new.defineName "Price" "Sheet1!$A$1" .workbook
      = .ok { Workbook.new with names } :=
    Workbook.exists_defineName rfl (by decide +kernel) _
  refine ⟨_, done, ?_⟩
  intro ctx
  let book : Workbook := { Workbook.new with names }
  have wellNamed : book.WellNamed := Workbook.wellNamed_new.of_names rfl
  have found : book.sheets[0]? = some (.blank "Sheet1") := rfl
  have defines : ctx.Defines "Price" d :=
    defines_of_defineName done rfl Std.HashMap.getElem?_empty (by with_unfolding_all rfl)
  have named : ctx.sheets book (some { first := "Sheet1" }) = .ok [0] :=
    sheets_of_name wellNamed found
  have value : ctx.evaluateAt 0 (.name "Price") = .ok .blank := by
    have run : ctx.evaluateAt 1 d
        = (ctx.cellValue (some { first := "Sheet1" }) price).mapError
          fun e => .operation (.area e) := rfl
    rw [evaluateAt_of_defines (by decide) defines, run,
      cellValue_of_sheets rfl named found ⟨by decide, by decide⟩, Sheet.get_blank]
    rfl
  have first : ctx.areas (some { first := "Sheet1" }) (.single price) = pure [_] :=
    areas_of_sheets rfl named found ⟨by decide, by decide⟩
  have second : ctx.areas none (.single other) = pure [_] :=
    areas_of_sheets rfl rfl found ⟨by decide, by decide⟩
  have replaced : ctx.evaluateAt 0 (.union d (.cell none other)) = .ok (.union _) :=
    evaluateAt_union_areas (memberAreas_cell first) (memberAreas_cell second)
  exact ⟨defines, evaluateAt_union_error (memberAreas_name value), _, replaced⟩

end Context

end Spreadsheet
