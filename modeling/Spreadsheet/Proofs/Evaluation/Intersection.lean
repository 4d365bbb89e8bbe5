import Spreadsheet.Proofs.Evaluation.Agreement
import Spreadsheet.Proofs.Evaluation.CellReference
import Spreadsheet.Proofs.Formula.Operation
import Spreadsheet.Proofs.Value.Resolve

/-! In an ordinary formula a range stands for the one cell that is seen of it from the current
cell. Putting a reference to that cell in the place of the range, or `#VALUE!` if no cell is seen,
does not change what the formula shows.
-/

namespace Spreadsheet

/-- The cell that is seen of a range from another cell: of a single cell the cell itself, of a
single column the one in the same row, of a single row the one in the same column, and of a larger
range the very cell that it is seen from.
-/
def Range.seenFrom? (r : Range) (here : Position) : Option Position :=
  if r.rowCount = 1 ∧ r.colCount = 1 then some r.first.position
  else if r.colCount = 1 then
    if r.first.row ≤ here.row ∧ here.row ≤ r.last.row then some ⟨here.row, r.first.col⟩ else none
  else if r.rowCount = 1 then
    if r.first.col ≤ here.col ∧ here.col ≤ r.last.col then some ⟨r.first.row, here.col⟩ else none
  else if r.contains here then some here
  else none

/-- The reference to what is seen of a range, or `#VALUE!` if nothing is. -/
def Expr.seenFrom (here : Position) (sheet : Option SheetRef) (r : Range) : Expr :=
  match r.seenFrom? here with
  | some p => .cell sheet (.ofPosition p)
  | none => .error .value

/-- What is seen of a range lies in the range: in the row of its first cell if it has one row
only, and else in that of the current cell, and alike for the column.
-/
theorem Range.seenFrom?_eq (r : Range) (here : Position)
    : let p : Position := ⟨if r.rowCount = 1 then r.first.row else here.row,
        if r.colCount = 1 then r.first.col else here.col⟩
      r.seenFrom? here = if r.contains p then some p else none := by
  intro p
  have rows := r.rows_le
  have cols := r.cols_le
  by_cases oneRow : r.rowCount = 1
  · by_cases oneCol : r.colCount = 1
    · have first : p = r.first.position := by simp [p, oneRow, oneCol, Address.position]
      rw [first, if_pos contains_first, seenFrom?, if_pos ⟨oneRow, oneCol⟩]
    · have inside : r.contains p ↔ r.first.col ≤ here.col ∧ here.col ≤ r.last.col := by
        simp [p, oneRow, oneCol, contains_iff, rows]
      simp only [seenFrom?, oneRow, oneCol, inside]
      simp [p, oneRow, oneCol]
  · by_cases oneCol : r.colCount = 1
    · have inside : r.contains p ↔ r.first.row ≤ here.row ∧ here.row ≤ r.last.row := by
        simp [p, oneRow, oneCol, contains_iff, cols]
      simp only [seenFrom?, oneRow, oneCol, inside]
      simp [p, oneRow, oneCol]
    · have same : p = here := by simp [p, oneRow, oneCol]
      rw [same]
      simp [seenFrom?, oneRow, oneCol]

theorem Range.contains_of_seenFrom? {r : Range} {here p : Position}
    (seen : r.seenFrom? here = some p)
    : r.contains p := by
  rw [seenFrom?_eq] at seen
  obtain ⟨inside, same⟩ := Option.ite_none_right_eq_some.mp seen
  cases same
  exact inside

-- What implicit intersection makes of an area

namespace Area

variable {area : Area Value} {sheet : Sheet} {r : Range} {here p : Position}

theorem absolute?_eq_none (outside : ¬(area.containsRow p.row ∧ area.containsCol p.col))
    : area.absolute? p = none := by
  rw [absolute?, if_neg (by simpa using outside)]

theorem Shows.absolute? (shows_ : area.Shows sheet r)
    : area.absolute? p = if r.contains p then some (.ofContent (sheet.get p)) else none := by
  split
  · next inside => exact shows_.cells p inside
  · next outside =>
    refine absolute?_eq_none ?_
    rw [containsRow_iff, containsCol_iff, shows_.origin, shows_.height, shows_.width]
    rw [Range.contains_iff] at outside
    have rows := r.rows_le
    have cols := r.cols_le
    simp only [Address.position, Range.rowCount, Range.colCount]
    omega

/-- Implicit intersection shows the cell that is seen of the range. -/
theorem Shows.intersect? (shows_ : area.Shows sheet r)
    : area.intersect? here = (r.seenFrom? here).map fun p => .ofContent (sheet.get p) := by
  have position : area.intersect? here = area.absolute?
      ⟨if r.rowCount = 1 then r.first.row else here.row,
        if r.colCount = 1 then r.first.col else here.col⟩ := by
    simp only [Area.intersect?, isRow, isColumn, shows_.origin, shows_.height, shows_.width,
      Address.position, beq_iff_eq]
  rw [position, shows_.absolute?, Range.seenFrom?_eq, apply_ite (Option.map _)]
  rfl

end Area

-- What is seen of ordinary formulas

/-- The same is seen of two values. -/
def SeenAlike (here : Position) (v w : Value) : Prop :=
  v.resolve here = w.resolve here

namespace Expr

variable {names : String → Evaluation Value} {ctx : Context}

/-- What is seen of an ordinary formula does not change if the ranges in it are replaced by what
is seen alike, by induction on the formula.
-/
theorem agree_eval_mapRanges {e : Expr} {f : Option SheetRef → Range → Expr}
    (ordinary : ctx.arrayMode = false) (operation : e.IsOperation)
    (replaced : ∀ sheet r, e.Contains (.range sheet r) →
      Agree (SeenAlike ctx.here) ((f sheet r).eval names ctx) ((range sheet r).eval names ctx))
    : Agree (SeenAlike ctx.here) ((e.mapRanges f).eval names ctx) (e.eval names ctx) := by
  induction operation with
  | range sheet r => exact replaced sheet r (contains_self _)
  | binary op hl hr ihl ihr =>
    rw [mapRanges]
    have inLeft := fun sheet r within =>
      replaced sheet r (contains_binary.mpr (.inr (.inl within)))
    have inRight := fun sheet r within =>
      replaced sheet r (contains_binary.mpr (.inr (.inr within)))
    refine agree_eval_binary (ihl inLeft) (ihr inRight) fun l l' r r' hl hr => ?_
    refine Agree.of_eq ?_ fun _ => rfl
    rw [Context.binary, Context.binary, ordinary]
    exact op.evaluate_congr hl hr
  | unary op h ih =>
    rw [mapRanges]
    have below := fun sheet r within => replaced sheet r (contains_unary.mpr (.inr within))
    refine agree_eval_unary (ih below) fun v v' seen => ?_
    refine Agree.of_eq ?_ fun _ => rfl
    rw [Context.unary, Context.unary, ordinary]
    exact congrArg Except.ok (op.evaluate_congr seen)
  | _ => exact Agree.of_eq rfl fun _ => rfl

/-- A range that is an area is seen as the reference to the cell that is seen of it. -/
theorem agree_eval_seenFrom {sheet : Option SheetRef} {r : Range} {area : Area Value}
    (read : ctx.rangeValue sheet r = .ok (.area area))
    : Agree (SeenAlike ctx.here) ((seenFrom ctx.here sheet r).eval names ctx)
        ((range sheet r).eval names ctx) := by
  obtain ⟨source, shows_, fits, cells⟩ := Context.exists_sheet_of_rangeValue read
  rw [eval, read]
  unfold seenFrom
  cases seen : r.seenFrom? ctx.here with
  | none =>
    refine .ok ?_
    rw [SeenAlike, Value.resolve_area, shows_.intersect?, seen, Value.resolve]
    rfl
  | some p =>
    have inside := Range.contains_of_seenFrom? seen
    change Agree _ (Except.mapError _ (ctx.cellValue sheet (.ofPosition p))) _
    rw [cells (.ofPosition p) (fits.countable inside)]
    refine .ok ?_
    rw [SeenAlike, Value.resolve_area, shows_.intersect?, seen]
    rfl

end Expr

/-- What an ordinary formula shows does not change if each range in it is replaced by the
reference to the cell that is seen of it, or by `#VALUE!` if none is.
-/
theorem Context.shown_mapRanges_seenFrom (ctx : Context) {e : Expr}
    (ordinary : ctx.arrayMode = false) (operation : e.IsOperation)
    (areas : ∀ sheet r, e.Contains (.range sheet r) →
      ∃ area, ctx.rangeValue sheet r = .ok (.area area))
    : (ctx.evaluate (e.mapRanges (Expr.seenFrom ctx.here))).map ctx.shown
      = (ctx.evaluate e).map ctx.shown := by
  have seen : Agree (SeenAlike ctx.here) (ctx.evaluate (e.mapRanges (Expr.seenFrom ctx.here)))
      (ctx.evaluate e) := by
    refine Expr.agree_eval_mapRanges ordinary operation fun sheet r within => ?_
    obtain ⟨area, read⟩ := areas sheet r within
    exact Expr.agree_eval_seenFrom read
  refine seen.map_eq fun v w alike => ?_
  rw [Context.shown, Context.shown, ordinary]
  exact congrArg Value.ofExcept alike

/-- In the second row, a column of three cells stands for its second cell. -/
theorem Context.shown_mapRanges_seenFrom_column
    : let sheet : Sheet := ⟨"Data", .ofList [(⟨1, 0⟩, .number 2)]⟩
      let ctx : Context := { book := some { Workbook.new with sheets := [sheet] }, here := ⟨1, 3⟩ }
      let column := Range.ofPositions ⟨0, 0⟩ ⟨2, 0⟩
      let e : Expr := .binary (.arithmetic .multiply) (.range none column) (.number 10)
      let e' : Expr :=
        .binary (.arithmetic .multiply) (.cell none (.ofPosition ⟨1, 0⟩)) (.number 10)
      e.mapRanges (Expr.seenFrom ctx.here) = e'
        ∧ (ctx.evaluate e').map ctx.shown = (ctx.evaluate e).map ctx.shown := by
  intro sheet ctx column e e'
  have replaced : e.mapRanges (Expr.seenFrom ctx.here) = e' := by rfl
  refine ⟨replaced, ?_⟩
  rw [← replaced]
  refine shown_mapRanges_seenFrom ctx rfl (.binary _ (.range _ _) (.number _)) ?_
  intro ref r within
  have only : ref = none ∧ r = column := by
    simpa using (Expr.contains_binary_leaves rfl rfl).mp within
  obtain ⟨rfl, rfl⟩ := only
  have read : sheet.area column = pure (sheet.areaWith column column) :=
    Sheet.area_of_small (by decide) ⟨by decide, by decide⟩
  exact ⟨_, rangeValue_of_area rfl rfl read⟩

end Spreadsheet
