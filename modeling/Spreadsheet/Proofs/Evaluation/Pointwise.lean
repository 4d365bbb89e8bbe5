import Spreadsheet.Proofs.Evaluation.CellReference
import Spreadsheet.Proofs.Evaluation.Sound
import Spreadsheet.Proofs.Formula.Operation
import Spreadsheet.Proofs.Value.Pointwise

/-! Array formulas of operators are pointwise: where all ranges are areas of one shape, the result
has this shape as well, and each of its cells is the value of the formula that has in place of
every range a reference to the cell at the same offset.
-/

namespace Spreadsheet

/-- The reference to the cell of a range at an offset from its corner. -/
def Expr.cellAt (row col : Nat) (sheet : Option SheetRef) (r : Range) : Expr :=
  .cell sheet (.ofPosition ⟨r.first.row + row, r.first.col + col⟩)

/-- Where the value of an array formula stands: a range keeps its place, and all else stands at the
current cell.
-/
def Expr.anchor (here : Position) : Expr → Position
  | range _ r => r.first.position
  | _ => here

/-- The formula is made of literals other than NaN, of references and of operators, and all ranges
in it are areas of one shape.
-/
structure Expr.Aligned (ctx : Context) (height width : Nat) (e : Expr) : Prop where
  operation : e.IsOperation
  numbers : ∀ x, e.Contains (.number x) → x.isNaN = false
  cells : ∀ sheet a, e.Contains (.cell sheet a) → a.position.Countable
  ranges : ∀ sheet r, e.Contains (.range sheet r) →
    ∃ area, ctx.rangeValue sheet r = .ok (.area area) ∧ area.height = height ∧ area.width = width

-- References to single cells

namespace Context

variable {ctx : Context} {ref : Option SheetRef} {a : Address}

theorem gives_areas_single (countable : a.position.Countable)
    : (ctx.areas ref (.single a)).Gives fun areas => ∀ area ∈ areas, area.Sound := by
  have narrow : (Range.single a).colCount ≤ widestArea := by
    rw [Range.colCount_single]
    decide
  have sound {area : Area Value} {sheet : Sheet} (shows_ : area.Shows sheet (.single a))
      : area.Sound :=
    shows_.sound narrow
  cases inBook : ctx.book with
  | none =>
    rw [(areas_of_noBook inBook).mpr ⟨Range.fits_single countable, rfl⟩]
    refine Reading.gives_pure fun area mem => ?_
    obtain rfl := List.mem_singleton.mp mem
    exact sound (Sheet.shows_unstored fun p _ => Sheet.get_blank "" p)
  | some book =>
    have found : Reading.Gives (ExceptT.mk (.ok (ctx.sheets book ref))) fun _ => True :=
      ⟨ctx.sheets book ref, rfl, by simp⟩
    rw [areas_of_book inBook]
    refine found.bind fun indices _ => Reading.gives_mapM indices fun index _ => ?_
    unfold Workbook.areaAt
    split
    · next sheet _ =>
      have read : sheet.area (.single a) = pure _ := Sheet.area_single countable
      rw [read]
      exact Reading.gives_pure (sound (Sheet.shows_of_area read))
    · exact Reading.gives_throw _

/-- A reference to a cell is never an area; on several sheets it is a union. -/
theorem exists_single_cellValue (countable : a.position.Countable)
    : ∃ value, ctx.cellValue ref a = .ok value ∧ value.Sound ∧ value.isArea = false := by
  refine exists_readValue (P := fun value => value.Sound ∧ value.isArea = false)
    (fun _ => ⟨trivial, rfl⟩) ((gives_areas_single countable).bind fun areas sound => ?_)
  split
  · next area =>
    have areaSound := sound area (by simp)
    rw [Area.relative?_of_lt areaSound.tall areaSound.wide]
    exact Reading.gives_pure ⟨areaSound.stored?.sound, areaSound.stored?.not_isArea⟩
  · exact Reading.gives_pure ⟨sound, rfl⟩

end Context

-- Formulas cell by cell

namespace Expr

variable {names : String → Evaluation Value} {ctx : Context} {height width : Nat} {e : Expr}

theorem Aligned.of_child {child : Expr} (h : e.Aligned ctx height width)
    (below : child ∈ e.children) (operation : child.IsOperation)
    : child.Aligned ctx height width :=
  ⟨operation, fun x within => h.numbers x (contains_child below within),
    fun sheet a within => h.cells sheet a (contains_child below within),
    fun sheet r within => h.ranges sheet r (contains_child below within)⟩

/-- The value of a formula stands for the values that it has with references to single cells in
place of its ranges.
-/
structure IsPointwise (names : String → Evaluation Value) (ctx : Context) (height width : Nat)
    (e : Expr) (value : Value) (cell : Nat → Nat → Value)
    : Prop where
  evaluated : e.eval names ctx = .ok value
  spreads : value.Spreads height width cell
  cells : ∀ row < height, ∀ col < width,
    (e.mapRanges (cellAt row col)).eval names ctx = .ok (cell row col)
  stands : ∀ a, value = .area a → a.origin = e.anchor ctx.here
  isArea : ∀ sheet r, e.Contains (.range sheet r) → value.isArea

/-- A formula without ranges has the same value at every cell. -/
theorem isPointwise_leaf {value : Value} (leaf : e.children = [])
    (same : ∀ f, e.mapRanges f = e) (noRange : ∀ sheet r, e ≠ .range sheet r)
    (evaluated : e.eval names ctx = .ok value) (sound : value.Sound)
    (single : value.isArea = false)
    : e.IsPointwise names ctx height width value fun _ _ => value := by
  refine ⟨evaluated, .constant sound single, fun _ _ _ _ => by rw [same, evaluated], ?_, ?_⟩
  · intro a isArea
    rw [isArea] at single
    cases single
  · intro sheet r within
    exact absurd ((contains_leaf leaf).mp within).symm (noRange sheet r)

/-- A range has at each of its cells the value of a reference to it. -/
theorem exists_isPointwise_range {sheet : Option SheetRef} {r : Range} {area : Area Value}
    (read : ctx.rangeValue sheet r = .ok (.area area)) (tall : area.height = height)
    (wide : area.width = width)
    : ∃ cell, (range sheet r).IsPointwise names ctx height width (.area area) cell := by
  obtain ⟨source, shows_, fits, cells⟩ := Context.exists_sheet_of_rangeValue read
  obtain rfl := shows_.height.symm.trans tall
  obtain rfl := shows_.width.symm.trans wide
  refine ⟨fun row col => .ofContent (source.get ⟨r.first.row + row, r.first.col + col⟩),
    by rw [eval, read]; rfl, .area ?_ shows_.height shows_.width ?_ ?_, ?_, ?_, fun _ _ _ => rfl⟩
  · rw [shows_.origin]
    exact fits
  · intro row inRow col inCol
    rw [shows_.relative?, if_pos]
    exact ⟨shows_.height ▸ inRow, shows_.width ▸ inCol⟩
  · exact fun row col => Value.isPlain_ofContent _
  · intro row inRow col inCol
    let p : Position := ⟨r.first.row + row, r.first.col + col⟩
    have countable : p.Countable := fits.countable (Range.contains_offset.mpr ⟨inRow, inCol⟩)
    rw [mapRanges, cellAt, eval, cells (.ofPosition p) countable]
    rfl
  · intro a same
    cases same
    exact shows_.origin

/-- In an array formula of operators, the value of every part is pointwise, by induction on the
formula.
-/
theorem exists_isPointwise (arrayMode : ctx.arrayMode = true)
    (grid : Broadcast.Holds ctx.here height width) (aligned : e.Aligned ctx height width)
    : ∃ value cell, e.IsPointwise names ctx height width value cell := by
  have operation := aligned.operation
  induction operation with
  | number x =>
    exact ⟨_, _, isPointwise_leaf rfl (fun _ => rfl) (by simp) rfl
      (aligned.numbers x (contains_self _)) rfl⟩
  | text t => exact ⟨_, _, isPointwise_leaf rfl (fun _ => rfl) (by simp) rfl trivial rfl⟩
  | boolean b => exact ⟨_, _, isPointwise_leaf rfl (fun _ => rfl) (by simp) rfl trivial rfl⟩
  | error e => exact ⟨_, _, isPointwise_leaf rfl (fun _ => rfl) (by simp) rfl trivial rfl⟩
  | missing => exact ⟨_, _, isPointwise_leaf rfl (fun _ => rfl) (by simp) rfl trivial rfl⟩
  | cell sheet a =>
    obtain ⟨value, read, sound, single⟩ :=
      Context.exists_single_cellValue (aligned.cells sheet a (contains_self _))
    exact ⟨_, _, isPointwise_leaf rfl (fun _ => rfl) (by simp) (by rw [eval, read]; rfl) sound
      single⟩
  | range sheet r =>
    obtain ⟨area, read, tall, wide⟩ := aligned.ranges sheet r (contains_self _)
    exact ⟨_, exists_isPointwise_range read tall wide⟩
  | @binary op left right hl hr ihl ihr =>
    obtain ⟨l, leftCell, leftAt⟩ := ihl (aligned.of_child (by simp [children]) hl)
    obtain ⟨r, rightCell, rightAt⟩ := ihr (aligned.of_child (by simp [children]) hr)
    obtain ⟨value, cell, lifted, spreads, cells, stands, isArea⟩ :=
      Broadcast.exists_spreads_lift₂ grid leftAt.spreads rightAt.spreads fun x y hx hy =>
        op.exists_evaluate ctx.here hx.1.sound hy.1.sound
    have lift (l r : Value) : ctx.binary op l r
        = Broadcast.lift₂ ctx.here l r (op.evaluate ctx.here) := by
      rw [Context.binary, arrayMode]
      rfl
    refine ⟨value, cell, ?_, spreads, ?_, stands, ?_⟩
    · rw [eval, leftAt.evaluated, rightAt.evaluated]
      change Except.mapError _ (ctx.binary op l r) = _
      rw [lift, lifted]
      rfl
    · intro row inRow col inCol
      rw [mapRanges, eval, leftAt.cells row inRow col inCol, rightAt.cells row inRow col inCol]
      change Except.mapError _ (ctx.binary op _ _) = _
      rw [lift, cells row inRow col inCol]
      rfl
    · intro sheet r within
      rcases contains_binary.mp within with same | inLeft | inRight
      · cases same
      · exact isArea (.inl (leftAt.isArea sheet r inLeft))
      · exact isArea (.inr (rightAt.isArea sheet r inRight))
  | @unary op operand h ih =>
    obtain ⟨v, operandCell, operandAt⟩ := ih (aligned.of_child (by simp [children]) h)
    obtain ⟨value, cell, lifted, spreads, cells, stands, isArea⟩ :=
      Broadcast.exists_spreads_lift₁ grid operandAt.spreads fun x hx =>
        ⟨op.evaluate ctx.here x, rfl, op.isPlain_evaluate hx.sound⟩
    have lift (v : Value) : ctx.unary op v
        = Broadcast.lift₁ ctx.here v fun value => .ok (op.evaluate ctx.here value) := by
      rw [Context.unary, arrayMode]
      rfl
    refine ⟨value, cell, ?_, spreads, ?_, stands, ?_⟩
    · rw [eval, operandAt.evaluated]
      change Except.mapError _ (ctx.unary op v) = _
      rw [lift, lifted]
      rfl
    · intro row inRow col inCol
      rw [mapRanges, eval, operandAt.cells row inRow col inCol]
      change Except.mapError _ (ctx.unary op _) = _
      rw [lift, cells row inRow col inCol]
      rfl
    · intro sheet r within
      rcases contains_unary.mp within with same | below
      · cases same
      · exact isArea (operandAt.isArea sheet r below)

end Expr

namespace Context

variable {ctx : Context} {e : Expr} {height width : Nat}

/-- An array formula of operators on ranges of one shape has an area of this shape as its value. It
stands at the current cell, and needs room there, unless the formula is nothing but a range. Each
cell of the area is the value of the formula with references to the cells at the same offset in
place of the ranges.
-/
theorem evaluate_pointwise (arrayMode : ctx.arrayMode = true) (inGrid : ctx.here.InGrid)
    (aligned : e.Aligned ctx height width) (someRange : ∃ sheet r, e.Contains (.range sheet r))
    (several : 1 < height * width) (few : height * width ≤ Value.maxCells)
    (narrow : width < columnLimit)
    (fits : (∃ sheet r, e = .range sheet r) ∨ ctx.here.col + width ≤ columnLimit)
    : ∃ area, ctx.evaluate e = .ok (.area area) ∧ area.origin = e.anchor ctx.here
      ∧ area.height = height ∧ area.width = width
      ∧ ∀ row < height, ∀ col < width, ∃ value,
          ctx.evaluate (e.mapRanges (Expr.cellAt row col)) = .ok value
          ∧ area.relative? row col = some value := by
  have pointwise : ∃ value cell,
      e.IsPointwise (ctx.nameValue maxNameDepth) ctx height width value cell := by
    by_cases isRange : ∃ sheet r, e = .range sheet r
    · obtain ⟨sheet, r, rfl⟩ := isRange
      obtain ⟨area, read, tall, wide⟩ := aligned.ranges sheet r (Expr.contains_self _)
      exact ⟨_, Expr.exists_isPointwise_range read tall wide⟩
    · have fits := fits.resolve_left isRange
      have tall : 0 < height := Nat.pos_of_mul_pos_right (Nat.lt_of_succ_lt several)
      have wide : 0 < width := Nat.pos_of_mul_pos_left (Nat.lt_of_succ_lt several)
      have rows : ctx.here.row + height ≤ rowLimit := by
        have row := inGrid.1
        have := Nat.le_mul_of_pos_right height wide
        simp only [maxRows, Value.maxCells, rowLimit] at row few ⊢
        omega
      exact Expr.exists_isPointwise arrayMode ⟨⟨tall, wide, rows, fits⟩, narrow, several, few⟩
        aligned
  obtain ⟨value, cell, evaluated, spreads, cells, stands, isArea⟩ := pointwise
  obtain ⟨sheet, r, within⟩ := someRange
  have isArea := isArea sheet r within
  cases spreads with
  | constant _ single =>
    rw [single] at isArea
    cases isArea
  | @area a _ _ tall wide shown _ =>
    refine ⟨a, evaluated, stands a rfl, tall, wide, ?_⟩
    exact fun row inRow col inCol =>
      ⟨_, cells row inRow col inCol, shown row inRow col inCol⟩

/-- Two columns in different rows are joined cell by cell. -/
theorem evaluate_pointwise_columns
    : let sheet : Sheet := ⟨"Data", .ofList [(⟨0, 0⟩, .number 1), (⟨4, 2⟩, .text "x")]⟩
      let ctx : Context := {
        book := some { Workbook.new with sheets := [sheet] }
        here := ⟨7, 7⟩
        arrayMode := true }
      let e : Expr := .binary .concat (.range none (.ofPositions ⟨0, 0⟩ ⟨1, 0⟩))
        (.range none (.ofPositions ⟨3, 2⟩ ⟨4, 2⟩))
      ∃ area, ctx.evaluate e = .ok (.area area) ∧ area.origin = ⟨7, 7⟩
        ∧ area.height = 2 ∧ area.width = 1
        ∧ ∀ row < 2, ∀ col < 1, ∃ value,
            ctx.evaluate (e.mapRanges (Expr.cellAt row col)) = .ok value
            ∧ area.relative? row col = some value := by
  intro sheet ctx e
  have parts {part : Expr} (within : e.Contains part)
      : part = e ∨ part = .range none (.ofPositions ⟨0, 0⟩ ⟨1, 0⟩)
        ∨ part = .range none (.ofPositions ⟨3, 2⟩ ⟨4, 2⟩) :=
    (Expr.contains_binary_leaves rfl rfl).mp within
  have read (r : Range) (small : r.cellCount ≤ denseLimit) (inGrid : r.InGrid)
      : ctx.rangeValue none r = .ok (.area (sheet.areaWith r r)) :=
    rangeValue_of_area rfl rfl (Sheet.area_of_small small inGrid)
  have aligned : e.Aligned ctx 2 1 := by
    refine ⟨.binary _ (.range _ _) (.range _ _), fun x within => ?_, fun ref a within => ?_,
      fun ref r within => ?_⟩
    · rcases parts within with same | same | same <;> simp [e] at same
    · rcases parts within with same | same | same <;> simp [e] at same
    · rcases parts within with same | same | same
      · simp [e] at same
      · cases same
        exact ⟨_, read _ (by decide) ⟨by decide, by decide⟩, rfl, rfl⟩
      · cases same
        exact ⟨_, read _ (by decide) ⟨by decide, by decide⟩, rfl, rfl⟩
  have someRange : e.Contains (.range none (.ofPositions ⟨0, 0⟩ ⟨1, 0⟩)) :=
    Expr.contains_binary.mpr (.inr (.inl (Expr.contains_self _)))
  exact evaluate_pointwise rfl ⟨by decide, by decide⟩ aligned ⟨_, _, someRange⟩ (by decide)
    (by decide) (by decide) (.inr (by decide))

/-- An operator on a range is applied to what is read of it. -/
theorem evaluate_unary_range {op : UnaryOperator} {ref : Option SheetRef} {r : Range}
    {value : Value} (read : ctx.rangeValue ref r = .ok value)
    : ctx.evaluate (.unary op (.range ref r)) = (ctx.unary op value).mapError .operation := by
  rw [evaluate, evaluateWithin, Expr.eval, Expr.eval, read]
  rfl

/-- Where an operator is applied to the cells of an area, there is room for as many cells. -/
theorem fits_of_unary {op : UnaryOperator} {a : Area Value} {value : Value}
    (arrayMode : ctx.arrayMode = true) (several : 1 < a.height * a.width)
    (few : a.height * a.width ≤ Value.maxCells) (applied : ctx.unary op (.area a) = .ok value)
    : Area.Fits ctx.here a.height a.width := by
  rw [unary, arrayMode] at applied
  exact Broadcast.fits_of_collect several few (fun _ _ _ _ => rfl) applied

/-- An array formula in the last column of the grid has no value if it is to be as wide as a row of
60000 cells, although that row itself can be read.
-/
theorem evaluate_row_past_last_column
    : let ctx : Context := { book := some .new, here := ⟨0, 16383⟩, arrayMode := true }
      let row := Range.ofPositions ⟨0, 0⟩ ⟨0, 59999⟩
      let e : Expr := .unary .plus (.range none row)
      ctx.here.InGrid ∧ e.Aligned ctx 1 60000 ∧ e.Contains (.range none row)
        ∧ ¬∃ area, ctx.evaluate e = .ok (.area area) := by
  intro ctx row e
  have read : ctx.rangeValue none row = .ok (.area ((Sheet.blank "Sheet1").areaWith row row)) := by
    refine rangeValue_of_area rfl rfl (Sheet.area_of_fits ?_ ⟨?_, ?_, ?_, ?_⟩ ?_)
    all_goals decide
  have part {part : Expr} (within : e.Contains part) : part = e ∨ part = .range none row := by
    rw [Expr.contains_unary, Expr.contains_leaf rfl] at within
    exact within
  refine ⟨⟨by decide, by decide⟩, ⟨.unary _ (.range _ _), ?_, ?_, ?_⟩,
    Expr.contains_unary.mpr (.inr (Expr.contains_self _)), ?_⟩
  · intro x within
    rcases part within with same | same <;> simp [e] at same
  · intro ref a within
    rcases part within with same | same <;> simp [e] at same
  · intro ref r within
    rcases part within with same | same
    · simp [e] at same
    · cases same
      exact ⟨_, read, rfl, rfl⟩
  · rintro ⟨area, evaluated⟩
    have run : ctx.evaluate e = (ctx.unary .plus _).mapError .operation := evaluate_unary_range read
    rw [evaluated] at run
    cases applied : ctx.unary .plus (.area ((Sheet.blank "Sheet1").areaWith row row)) with
    | error e =>
      rw [applied] at run
      cases run
    | ok value =>
      have fits := fits_of_unary rfl (by decide) (by decide) applied
      exact absurd fits.lastCol (by decide)

end Context

end Spreadsheet
