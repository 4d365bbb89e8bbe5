import Spreadsheet.Proofs.Evaluation.ReadAlike
import Spreadsheet.Proofs.Formula.Operation
import Spreadsheet.Proofs.Function.Alike

/-! A formula depends on nothing but the cells that it refers to. What the other cells hold can only
make a large range hold too much data to be read.
-/

namespace Spreadsheet

/-- Workbooks with the same sheets, names and date system, and maybe other cells. -/
structure Workbook.SameFrame (b b' : Workbook) : Prop where
  sheetNames : b.sheets.map Sheet.name = b'.sheets.map Sheet.name
  definedNames : ∀ name sheet, b.names.get? name sheet = b'.names.get? name sheet
  dates : b.dates = b'.dates

/-- All sheets of the workbook keep to the grid. -/
def Workbook.InGrid (book : Workbook) : Prop :=
  ∀ sheet ∈ book.sheets, sheet.InGrid

/-- The formula refers to a range on some sheets, or to the cell that is the range. -/
def Expr.RefersTo (e : Expr) (ref : Option SheetRef) (r : Range) : Prop :=
  e = .range ref r ∨ ∃ a, e = .cell ref a ∧ r = .single a

namespace Workbook.SameFrame

variable {b b' : Workbook} {s t : Sheet} {i : Nat}

theorem sheetIndex? (frame : b.SameFrame b') (name : String)
    : b.sheetIndex? name = b'.sheetIndex? name := by
  have byName (book : Workbook) : book.sheetIndex? name
      = (book.sheets.map Sheet.name).findIdx? fun other => Text.lower other == Text.lower name := by
    rw [Workbook.sheetIndex?, List.findIdx?_map]
    rfl
  rw [byName, byName, frame.sheetNames]

theorem sheets_eq_none (frame : b.SameFrame b') : b.sheets[i]? = none ↔ b'.sheets[i]? = none := by
  have length : b.sheets.length = b'.sheets.length := by
    simpa using congrArg List.length frame.sheetNames
  rw [List.getElem?_eq_none_iff, List.getElem?_eq_none_iff, length]

end Workbook.SameFrame

namespace Context

variable {ctx : Context} {b b' : Workbook} {ref : Option SheetRef} {r : Range} {e part : Expr}

/-- The same place in another workbook. -/
def inBook (ctx : Context) (book : Workbook) : Context :=
  { ctx with book := some book }

/-- A relation holds between the sheets that a reference leads to in two workbooks. -/
def OnSheets (ctx : Context) (b b' : Workbook) (ref : Option SheetRef) (P : Sheet → Sheet → Prop)
    : Prop :=
  ∀ indices, ctx.sheets b ref = .ok indices → ∀ i ∈ indices, ∀ s t,
    b.sheets[i]? = some s → b'.sheets[i]? = some t → P s t

/-- A relation holds between the sheets of two workbooks for every range that a formula refers to,
itself or through a name.
-/
def OnReferences (ctx : Context) (b b' : Workbook) (e : Expr) (P : Range → Sheet → Sheet → Prop)
    : Prop :=
  ∀ part, (ctx.inBook b).Uses e part → ∀ ref r, part.RefersTo ref r → ctx.OnSheets b b' ref (P r)

theorem OnReferences.of_uses {P : Range → Sheet → Sheet → Prop} (h : ctx.OnReferences b b' e P)
    (used : (ctx.inBook b).Uses e part)
    : ctx.OnReferences b b' part P :=
  fun part' further => h part' (used.trans further)

theorem OnReferences.and {P Q R : Range → Sheet → Sheet → Prop} (hp : ctx.OnReferences b b' e P)
    (hq : ctx.OnReferences b b' e Q) (both : ∀ r s t, P r s t → Q r s t → R r s t)
    : ctx.OnReferences b b' e R :=
  fun part used ref r refers indices found i mem s t inLeft inRight =>
    both r s t (hp part used ref r refers indices found i mem s t inLeft inRight)
      (hq part used ref r refers indices found i mem s t inLeft inRight)

/-- A formula that refers to one range only, on its own sheet. -/
theorem OnReferences.of_own {P : Range → Sheet → Sheet → Prop} {s t : Sheet}
    (noNames : ∀ n, ¬e.Contains (.name n))
    (own : ∀ part, e.Contains part → ∀ ref r', part.RefersTo ref r' → ref = none ∧ r' = r)
    (inLeft : b.sheets[ctx.sheet]? = some s) (inRight : b'.sheets[ctx.sheet]? = some t)
    (holds : P r s t)
    : ctx.OnReferences b b' e P := by
  intro part used ref r' refers indices found i mem s' t' inLeft' inRight'
  obtain ⟨rfl, rfl⟩ := own part (contains_of_uses noNames used) ref r' refers
  cases found
  obtain rfl := List.mem_singleton.mp mem
  cases inLeft.symm.trans inLeft'
  cases inRight.symm.trans inRight'
  exact holds

theorem sheets_eq (frame : b.SameFrame b') : ctx.sheets b ref = ctx.sheets b' ref := by
  cases ref with
  | none => rfl
  | some ref => simp only [sheets, frame.sheetIndex?]

theorem alike_inBook (frame : b.SameFrame b') : (ctx.inBook b).Alike (ctx.inBook b') :=
  ⟨rfl, rfl, frame.dates, rfl⟩

-- References

theorem agrees_areaAt (frame : b.SameFrame b') (inGrid : b.InGrid) (inGrid' : b'.InGrid)
    {i : Nat}
    (alike : ∀ s t, b.sheets[i]? = some s → b'.sheets[i]? = some t → Sheet.ReadAlike r s t)
    : Reading.Agrees Area.Alike (b.areaAt r i) (b'.areaAt r i) := by
  unfold Workbook.areaAt
  cases found : b.sheets[i]? with
  | none =>
    rw [frame.sheets_eq_none.mp found]
    exact Reading.agrees_of_eq rfl Area.Alike.refl
  | some s =>
    cases found' : b'.sheets[i]? with
    | none =>
      rw [frame.sheets_eq_none.mpr found'] at found
      cases found
    | some t =>
      exact Sheet.agrees_area (inGrid s (List.mem_of_getElem? found))
        (inGrid' t (List.mem_of_getElem? found')) (alike s t found found')

theorem agrees_areas (frame : b.SameFrame b') (inGrid : b.InGrid) (inGrid' : b'.InGrid)
    (alike : ctx.OnSheets b b' ref (Sheet.ReadAlike r))
    : Reading.Agrees (List.Forall₂ Area.Alike) ((ctx.inBook b).areas ref r)
        ((ctx.inBook b').areas ref r) := by
  have sheets' : (ctx.inBook b').sheets b' ref = ctx.sheets b ref := (sheets_eq frame).symm
  rw [areas_of_book rfl, areas_of_book rfl, sheets']
  cases found : ctx.sheets b ref with
  | error e =>
    have sheets : (ctx.inBook b).sheets b ref = .error e := found
    rw [sheets]
    exact .ok (.error e)
  | ok indices =>
    have sheets : (ctx.inBook b).sheets b ref = .ok indices := found
    have areas : Reading.Agrees (List.Forall₂ Area.Alike) (indices.mapM (b.areaAt r))
        (indices.mapM (b'.areaAt r)) :=
      Reading.agrees_mapM fun i mem =>
        agrees_areaAt frame inGrid inGrid' (alike indices found i mem)
    rw [sheets]
    exact areas

theorem agree_readValue {x y : Reading Value} (h : Reading.Agrees Value.Alike x y)
    : Agree Value.Alike (readValue x) (readValue y) := by
  refine Agree.map h fun a b related => ?_
  cases related with
  | ok alike => exact alike
  | error e => exact .same _

theorem agree_rangeValue
    (areas : Reading.Agrees (List.Forall₂ Area.Alike) ((ctx.inBook b).areas ref r)
      ((ctx.inBook b').areas ref r))
    : Agree Value.Alike ((ctx.inBook b).rangeValue ref r) ((ctx.inBook b').rangeValue ref r) := by
  refine agree_readValue (areas.bind fun as bs alike => ?_)
  cases alike with
  | nil => exact Reading.agrees_pure (.same _)
  | cons first others =>
    cases others with
    | nil => exact Reading.agrees_pure (.area first)
    | cons second others => exact Reading.agrees_pure (.union (.cons first (.cons second others)))

theorem agree_cellValue {a : Address}
    (areas : Reading.Agrees (List.Forall₂ Area.Alike) ((ctx.inBook b).areas ref (.single a))
      ((ctx.inBook b').areas ref (.single a)))
    : Agree Value.Alike ((ctx.inBook b).cellValue ref a) ((ctx.inBook b').cellValue ref a) := by
  refine agree_readValue (areas.bind fun as bs alike => ?_)
  cases alike with
  | nil => exact Reading.agrees_pure (.same _)
  | cons first others =>
    cases others with
    | nil =>
      refine Reading.agrees_pure ?_
      rw [first.relative]
      exact .same _
    | cons second others => exact Reading.agrees_pure (.union (.cons first (.cons second others)))

end Context

-- Formulas

namespace Expr

variable {names names' : String → Evaluation Value} {ctx : Context} {b b' : Workbook}

theorem agree_areasOf {v w : Value} (h : v.Alike w)
    : Agree (List.Forall₂ Area.Alike) (areasOf v) (areasOf w) := by
  cases h with
  | same =>
    refine Agree.of_eq rfl fun areas => ?_
    exact List.forall₂_same.mpr fun a _ => Area.Alike.refl a
  | area h => exact .ok (.cons h .nil)
  | union h => exact .ok h

/-- The areas of a member of a union look alike if those of a reference do, or its value does. -/
theorem agree_memberAreas {member : Expr} {x y : Evaluation Value}
    (areas : ∀ ref r, member.RefersTo ref r → Reading.Agrees (List.Forall₂ Area.Alike)
      ((ctx.inBook b).areas ref r) ((ctx.inBook b').areas ref r))
    (h : Agree Value.Alike x y)
    : Agree (Agree (List.Forall₂ Area.Alike)) (memberAreas (ctx.inBook b) member fun _ => x)
        (memberAreas (ctx.inBook b') member fun _ => y) := by
  cases member with
  | cell ref a => exact Agree.mapError _ (areas ref (.single a) (.inr ⟨a, rfl, rfl⟩))
  | range ref r => exact Agree.mapError _ (areas ref r (.inl rfl))
  | _ => exact h.map fun _ _ => agree_areasOf

/-- A formula goes alike in two workbooks if its references are read alike and its names have values
that look alike, by induction on the formula.
-/
theorem agree_eval_inBook (alike : (ctx.inBook b).Alike (ctx.inBook b')) (e : Expr)
    (areas : ∀ part, e.Contains part → ∀ ref r, part.RefersTo ref r
      → Reading.Agrees (List.Forall₂ Area.Alike) ((ctx.inBook b).areas ref r)
        ((ctx.inBook b').areas ref r))
    (named : ∀ n, e.Contains (.name n) → Agree Value.Alike (names n) (names' n))
    : Agree Value.Alike (e.eval names (ctx.inBook b)) (e.eval names' (ctx.inBook b')) := by
  induction e using induction_children with
  | step e ih =>
    have children : ∀ child ∈ e.children, Agree Value.Alike (child.eval names (ctx.inBook b))
        (child.eval names' (ctx.inBook b')) :=
      fun child below => ih child below
        (fun part within => areas part (contains_child below within))
        fun n within => named n (contains_child below within)
    cases e with
    | cell ref a =>
      exact Agree.mapError _ (Context.agree_cellValue
        (areas _ (contains_self _) ref (.single a) (.inr ⟨a, rfl, rfl⟩)))
    | range ref r =>
      exact Agree.mapError _ (Context.agree_rangeValue
        (areas _ (contains_self _) ref r (.inl rfl)))
    | name n => exact named n (contains_self _)
    | binary op left right =>
      refine agree_eval_binary (children left (by simp [Expr.children]))
        (children right (by simp [Expr.children])) fun l l' r r' hl hr => ?_
      exact Agree.of_eq (Context.binary_alike op hl hr) .same
    | union left right =>
      have leftIn : left ∈ (union left right).children := by simp [Expr.children]
      have rightIn : right ∈ (union left right).children := by simp [Expr.children]
      have first := agree_memberAreas (areas left (contains_child leftIn left.contains_self))
        (children left leftIn)
      have second := agree_memberAreas (areas right (contains_child rightIn right.contains_self))
        (children right rightIn)
      refine first.bind fun as as' hl => ?_
      cases hl with
      | error e => exact .ok (.same _)
      | ok hl =>
        refine second.bind fun bs bs' hr => ?_
        cases hr with
        | error e => exact .ok (.same _)
        | ok hr => exact .ok (.union (List.rel_append hl hr))
    | unary op operand =>
      refine agree_eval_unary (children operand (by simp [Expr.children])) fun v v' h => ?_
      exact Agree.of_eq (Context.unary_alike op h) .same
    | call f arguments =>
      exact agree_eval_call children fun function values values' h =>
        function.agree_apply_of_correspondence (Value.Alike.correspondence alike) h
    | array rows =>
      rw [eval, eval, evalRows_eq (fun _ _ => element_alike) fun row inRows e inRow =>
        children e (List.mem_flatten.mpr ⟨row, inRows, inRow⟩)]
      exact Agree.of_eq rfl .same
    | _ => exact .ok (.same _)

end Expr

namespace Context

/-- A formula goes alike in two workbooks with the same sheets, names and date system that hold the
same in the cells that it refers to, as long as each range that it refers to holds too much data in
both of them or in neither.
-/
theorem agree_evaluate_inBook (ctx : Context) {b b' : Workbook} {e : Expr}
    (frame : b.SameFrame b') (inGrid : b.InGrid) (inGrid' : b'.InGrid)
    (same : ctx.OnReferences b b' e Sheet.SameIn)
    (overflows : ctx.OnReferences b b' e fun r s t => s.Overflows r ↔ t.Overflows r)
    : Agree Value.Alike ((ctx.inBook b).evaluate e) ((ctx.inBook b').evaluate e) := by
  have sameNames (n : String) : (ctx.inBook b').definition? n = (ctx.inBook b).definition? n :=
    (frame.definedNames n ctx.sheet).symm
  have alike : ctx.OnReferences b b' e Sheet.ReadAlike := same.and overflows fun _ _ _ => .mk
  refine agree_evaluateWithin (P := fun e => ctx.OnReferences b b' e Sheet.ReadAlike) (.same _)
    sameNames (fun e part h used => OnReferences.of_uses h used) ?_ (Nat.le_refl maxNameDepth) alike
  intro depth _ e alike named
  refine e.agree_eval_inBook (alike_inBook frame) (fun part within ref r refers => ?_) named
  exact agrees_areas frame inGrid inGrid' (alike part (uses_of_contains within) ref r refers)

/-- A sum does not depend on a cell next to the range that it sums. -/
theorem agree_evaluate_inBook_sum
    : let sheet : Sheet := ⟨"Data", .ofList [(⟨0, 0⟩, .number 1)]⟩
      let b : Workbook := { Workbook.new with sheets := [sheet] }
      let b' : Workbook := { Workbook.new with sheets :=
        [{ sheet with cells := sheet.cells.insert ⟨2, 2⟩ (.text "x") }] }
      let e : Expr := .call "SUM" [.range none (.ofPositions ⟨0, 0⟩ ⟨1, 1⟩)]
      let ctx : Context := {}
      Agree Value.Alike ((ctx.inBook b).evaluate e) ((ctx.inBook b').evaluate e) := by
  intro sheet b b' e ctx
  let square := Range.ofPositions ⟨0, 0⟩ ⟨1, 1⟩
  let other : Sheet := { sheet with cells := sheet.cells.insert ⟨2, 2⟩ (.text "x") }
  have parts {part : Expr} (within : e.Contains part) : part = e ∨ part = .range none square := by
    rcases Expr.contains_iff.mp within with same | ⟨argument, mem, within⟩
    · exact .inl same
    · obtain rfl := List.mem_singleton.mp mem
      exact .inr ((Expr.contains_leaf rfl).mp within)
  have noNames (n : String) : ¬e.Contains (.name n) := by
    intro within
    rcases parts within with same | same <;> simp [e] at same
  have own (part : Expr) (within : e.Contains part) (ref : Option SheetRef) (r : Range)
      (refers : part.RefersTo ref r) : ref = none ∧ r = square := by
    rcases parts within with rfl | rfl
    · rcases refers with same | ⟨_, same, _⟩ <;> simp [e] at same
    · rcases refers with same | ⟨_, same, _⟩ <;> cases same
      exact ⟨rfl, rfl⟩
  have inGrid : sheet.InGrid := (Sheet.inGrid_blank "Data").insert ⟨by decide, by decide⟩ _
  have inGrid' : other.InGrid := inGrid.insert ⟨by decide, by decide⟩ _
  have same : Sheet.SameIn square sheet other :=
    (Sheet.SameIn.refl square sheet).insert (by decide) _
  have few (sheet : Sheet) : ¬sheet.Overflows square :=
    fun overflows => absurd overflows.1 (by decide)
  refine agree_evaluate_inBook ctx ⟨rfl, fun _ _ => rfl, rfl⟩ ?_ ?_
    (OnReferences.of_own noNames own rfl rfl same) (OnReferences.of_own noNames own rfl rfl ?_)
  · exact fun _ mem => List.mem_singleton.mp mem ▸ inGrid
  · exact fun _ mem => List.mem_singleton.mp mem ▸ inGrid'
  · exact iff_of_false (few sheet) (few other)

/-- Cells on both sides of a range make it hold too much data, although it is blank itself. -/
theorem evaluate_range_between_far_cells
    : let sheet : Sheet := .blank "Data"
      let other : Sheet := { sheet with cells :=
        (sheet.cells.insert ⟨0, 0⟩ (.number 1)).insert ⟨1048575, 3⟩ (.number 1) }
      let b : Workbook := { Workbook.new with sheets := [sheet] }
      let b' : Workbook := { Workbook.new with sheets := [other] }
      let e : Expr := .range none (.ofPositions ⟨0, 1⟩ ⟨1048575, 2⟩)
      let ctx : Context := {}
      b.SameFrame b' ∧ b.InGrid ∧ b'.InGrid ∧ ctx.OnReferences b b' e Sheet.SameIn
        ∧ (∃ area, (ctx.inBook b).evaluate e = .ok (.area area))
        ∧ (ctx.inBook b').evaluate e = .ok (.error .num) := by
  intro sheet other b b' e ctx
  let columns := Range.ofPositions ⟨0, 1⟩ ⟨1048575, 2⟩
  have parts {part : Expr} (within : e.Contains part) : part = e :=
    (Expr.contains_leaf rfl).mp within
  have noNames (n : String) : ¬e.Contains (.name n) := by
    intro within
    have same := parts within
    simp [e] at same
  have own (part : Expr) (within : e.Contains part) (ref : Option SheetRef) (r : Range)
      (refers : part.RefersTo ref r) : ref = none ∧ r = columns := by
    rw [parts within] at refers
    rcases refers with same | ⟨_, same, _⟩
    · have inside := Expr.range.inj same
      exact ⟨inside.1.symm, inside.2.symm⟩
    · simp [e] at same
  have inGrid : sheet.InGrid := Sheet.inGrid_blank "Data"
  have inGrid' : other.InGrid :=
    (inGrid.insert ⟨by decide, by decide⟩ (.number 1)).insert ⟨by decide, by decide⟩ _
  have same : Sheet.SameIn columns sheet other :=
    ((Sheet.SameIn.refl columns sheet).insert (by decide) _).insert (by decide) _
  have columnsInGrid : columns.InGrid := ⟨by decide, by decide⟩
  have large : ¬columns.cellCount ≤ denseLimit := by decide
  have unused : sheet.usedRange? = none :=
    Cells.boundingRange?_eq_none.mpr fun _ => Cells.not_mem_empty
  have overflows : other.Overflows columns := by
    have first : ⟨0, 0⟩ ∈ other.cells := by simp [other, Cells.mem_insert]
    have last : ⟨1048575, 3⟩ ∈ other.cells := by simp [other, Cells.mem_insert]
    exact Sheet.overflows_of_between (by decide) ⟨first, by decide⟩ ⟨last, by decide⟩
  have evaluated (book : Workbook) : (ctx.inBook book).evaluate e
      = ((ctx.inBook book).rangeValue none columns).mapError fun e => .operation (.area e) := rfl
  refine ⟨⟨rfl, fun _ _ => rfl, rfl⟩, ?_, ?_, OnReferences.of_own noNames own rfl rfl same, ?_, ?_⟩
  · exact fun _ mem => List.mem_singleton.mp mem ▸ inGrid
  · exact fun _ mem => List.mem_singleton.mp mem ▸ inGrid'
  · have noPart : (sheet.usedRange?.bind fun used => used.inter? columns) = none := by
      rw [unused]
      rfl
    have read := Sheet.area_of_unused large columnsInGrid.fits noPart
    refine ⟨.unstored columns.first.position columns.rowCount columns.colCount, ?_⟩
    rw [evaluated, rangeValue_of_area rfl rfl read]
    rfl
  · rcases other.area_cases columnsInGrid with ⟨_, read⟩ | ⟨enough, _⟩
    · rw [evaluated, rangeValue_of_error rfl rfl read]
      rfl
    · exact absurd overflows enough

end Context

end Spreadsheet
