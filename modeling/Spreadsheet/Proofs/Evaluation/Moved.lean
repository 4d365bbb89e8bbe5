import Spreadsheet.Proofs.Evaluation.Termination
import Spreadsheet.Proofs.Formula.Operation
import Spreadsheet.Proofs.Function.Correspondence
import Spreadsheet.Proofs.Function.DateList
import Spreadsheet.Proofs.Value.Moved

/-! A formula that refers to no cells does not depend on the cell in which it stands. The areas that
its array constants make up stand at that cell and are read from there, so that operators and
functions see the same of them wherever that is.
-/

namespace Spreadsheet

variable {p q : Position} {v w : Value}

/-- The same context at another cell of the sheet. -/
def Context.atCell (ctx : Context) (here : Position) : Context :=
  { ctx with here }

-- What functions look at

/-- A moved area lists the same dates, since every cell of it is a scalar. -/
theorem Area.StandsAt.dates {a : Area Value} (stands : a.StandsAt p) (q : Position)
    (system : DateSystem) (year : Int)
    : a.dates system year = (a.moveTo q).dates system year := by
  have entry (i : Nat)
      : (a.valueAt i).date system (a.positionAt i) year
        = ((a.moveTo q).valueAt i).date system ((a.moveTo q).positionAt i) year := by
    refine Value.date_of_isScalar ?_ system _ _ year
    rcases a.getD_stored?_cases (i / a.width) (i % a.width) with blank | mem
    · rw [Area.valueAt, blank]
      rfl
    · exact stands.scalars _ mem
  have count : (a.moveTo q).cellCount = a.cellCount := rfl
  rw [Area.dates, Area.dates, count]
  split
  · rfl
  · refine mapM_eq_of_forall₂ (R := fun x y => x.2.date system x.1 year = y.2.date system y.1 year)
      ?_ fun _ _ => id
    rw [Area.entries, Area.entries, firstEntries, firstEntries, count, List.forall₂_map_left_iff,
      List.forall₂_map_right_iff]
    exact List.forall₂_same.mpr fun i _ => entry i

namespace Value.Moved

theorem storedCells? (h : v.Moved p q w) : v.storedCells? = w.storedCells? := by
  obtain ⟨_, rfl⟩ := h
  cases v with
  | union areas =>
    rw [moveTo, Value.storedCells?, Value.storedCells?, List.flatMap_map]
    rfl
  | _ => rfl

theorem passedOn (h : v.Moved p q w) : (Scalar.passedOn v).Moved p q (Scalar.passedOn w) := by
  obtain ⟨stands, rfl⟩ := h
  cases v with
  | missing => exact moved_of_isScalar rfl
  | _ => exact ⟨stands, rfl⟩

theorem listed (h : v.Moved p q w) (system : DateSystem) (year : Int)
    : Value.dates system p (some v) year = Value.dates system q (some w) year := by
  obtain ⟨stands, rfl⟩ := h
  cases v with
  | area a => exact stands.dates q system year
  | union areas =>
    have members : List.Forall₂ (fun a b => a.dates system year = b.dates system year) areas
        (areas.map fun a => a.moveTo q) := by
      rw [List.forall₂_map_right_iff]
      exact List.forall₂_same.mpr fun a mem => (stands a mem).dates q system year
    change (List.mapM _ _ >>= _) = (List.mapM _ _ >>= _)
    rw [mapM_eq_of_forall₂ members fun _ _ => id]
  | missing => rfl
  | _ =>
    change ((_ : Except CellError Float) >>= _) = (_ >>= _)
    rw [date_of_isScalar rfl system p q year]
    rfl

end Value.Moved

namespace Context

variable {ctx : Context} {l l' r r' : Value}

theorem agree_lift_atCell (hp : p.InGrid) (hq : q.InGrid) (h : v.Moved p q w) {f : Value → Value}
    (scalar : ∀ x, (f x).isScalar)
    : Agree (Value.Moved p q) ((ctx.atCell p).lift v f) ((ctx.atCell q).lift w f) := by
  have run (here : Position) (value : Value)
      : (ctx.atCell here).lift value f
        = if ctx.arrayMode then Broadcast.lift₁ here value fun x => .ok (f x)
          else .ok (f (.ofExcept (value.resolve here))) :=
    rfl
  rw [run, run]
  by_cases array : ctx.arrayMode
  · rw [if_pos array, if_pos array]
    refine Broadcast.agree_lift₁ hp hq h (fun _ _ => rfl) fun x value computed => ?_
    cases computed
    exact scalar x
  · rw [if_neg array, if_neg array, h.resolve]
    exact .ok (Value.moved_of_isScalar (scalar _))

/-- Values correspond to each other whose areas stand at the cells of the two contexts. -/
theorem correspondence_atCell (ctx : Context) (hp : p.InGrid) (hq : q.InGrid)
    : Correspondence (ctx.atCell p) (ctx.atCell q) (Value.Moved p q) where
  system := rfl
  year := rfl
  scalar _ := Value.moved_of_isScalar
  passedOn _ _ h := h.passedOn
  seen _ _ h := h.resolve
  counted _ _ h _ _ _ := by rw [h.storedCells?]
  listed _ _ h := h.listed
  lifted _ _ h _ := agree_lift_atCell hp hq h

-- Operators

theorem agree_binary_atCell (hp : p.InGrid) (hq : q.InGrid) (op : BinaryOperator)
    (hl : l.Moved p q l') (hr : r.Moved p q r')
    : Agree (Value.Moved p q) ((ctx.atCell p).binary op l r) ((ctx.atCell q).binary op l' r') := by
  have run (here : Position) (x y : Value)
      : (ctx.atCell here).binary op x y
        = if ctx.arrayMode then Broadcast.lift₂ here x y (op.evaluate here)
          else op.evaluate here x y :=
    rfl
  rw [run, run]
  by_cases array : ctx.arrayMode
  · rw [if_pos array, if_pos array]
    refine Broadcast.agree_lift₂ hp hq hl hr (fun x y hx hy => ?_) fun _ _ _ =>
      op.isScalar_of_evaluate
    refine op.evaluate_congr (Value.resolve_of_not_isArea ?_) (Value.resolve_of_not_isArea ?_)
    · exact Value.not_isArea_of_isScalar hx
    · exact Value.not_isArea_of_isScalar hy
  · rw [if_neg array, if_neg array, ← op.evaluate_congr hl.resolve hr.resolve]
    cases evaluated : op.evaluate p l r with
    | error e => exact .error e
    | ok value => exact .ok (Value.moved_of_isScalar (op.isScalar_of_evaluate evaluated))

theorem agree_unary_atCell (hp : p.InGrid) (hq : q.InGrid) (op : UnaryOperator)
    (h : v.Moved p q w)
    : Agree (Value.Moved p q) ((ctx.atCell p).unary op v) ((ctx.atCell q).unary op w) := by
  have run (here : Position) (x : Value)
      : (ctx.atCell here).unary op x
        = if ctx.arrayMode then Broadcast.lift₁ here x fun x => .ok (op.evaluate here x)
          else .ok (op.evaluate here x) :=
    rfl
  rw [run, run]
  by_cases array : ctx.arrayMode
  · rw [if_pos array, if_pos array]
    refine Broadcast.agree_lift₁ hp hq h (fun x hx => ?_) fun x value computed => ?_
    · exact congrArg Except.ok (op.evaluate_congr
        (Value.resolve_of_not_isArea (Value.not_isArea_of_isScalar hx)))
    · cases computed
      exact op.isScalar_evaluate
  · rw [if_neg array, if_neg array, ← op.evaluate_congr h.resolve]
    exact .ok (Value.moved_of_isScalar op.isScalar_evaluate)

end Context

-- Formulas

namespace Expr

variable {names names' : String → Evaluation Value} {ctx : Context} {e : Expr}

/-- The formula refers to cells, on whatever sheets of whatever workbook. -/
def IsReference : Expr → Prop
  | cell _ _ => True
  | range _ _ => True
  | _ => False

theorem isScalar_element (value : Value) : (element value).isScalar := by
  unfold element
  split
  · assumption
  · rfl

theorem element_moved (h : v.Moved p q w) : element v = element w := by
  unfold element
  rw [← h.isScalar]
  split
  · next scalar => exact h.eq_of_isScalar scalar
  · rfl

theorem agree_areasOf_moved (h : v.Moved p q w)
    : Agree (fun as bs => (Value.union as).Moved p q (.union bs)) (areasOf v) (areasOf w) := by
  obtain ⟨stands, rfl⟩ := h
  cases v with
  | area a => exact .ok ⟨by simpa [Value.StandsAt] using stands, rfl⟩
  | union areas => exact .ok ⟨stands, rfl⟩
  | _ => exact .error _

/-- The areas of a member of a union are those of its value, if it is no reference. -/
theorem memberAreas_of_not_isReference (ctx : Context) (free : ¬e.IsReference)
    (value : Unit → Evaluation Value)
    : memberAreas ctx e value = (value ()).map areasOf := by
  cases e with
  | cell sheet a => exact absurd trivial free
  | range sheet r => exact absurd trivial free
  | _ => rfl

theorem moved_union_append {as as' bs bs' : List (Area Value)}
    (first : (Value.union as).Moved p q (.union as'))
    (second : (Value.union bs).Moved p q (.union bs'))
    : (Value.union (as ++ bs)).Moved p q (.union (as' ++ bs')) := by
  obtain ⟨stands, moved⟩ := first
  obtain ⟨stands', moved'⟩ := second
  cases moved
  cases moved'
  refine ⟨fun a mem => ?_, congrArg Value.union List.map_append.symm⟩
  rcases List.mem_append.mp mem with mem | mem
  · exact stands a mem
  · exact stands' a mem

/-- The values of the rows of an array constant are as many, and scalars. -/
theorem shape_of_evalRows {rows : List (List Expr)} {values : List (List Value)}
    (run : evalRows names ctx rows = .ok values)
    (narrow : ∀ row ∈ rows, row.length ≤ widestArea)
    : values.length = rows.length
      ∧ ∀ row ∈ values, row.length ≤ widestArea ∧ ∀ value ∈ row, value.isScalar := by
  rw [evalRows_eq_mapM] at run
  refine forall_of_mapM_eq_ok run fun row mem values run => ?_
  obtain ⟨evaluated, elements, same⟩ := except_bind_eq_ok.mp run
  cases same
  have length := (forall_of_mapM_eq_ok (P := fun _ => True) elements fun _ _ _ _ => trivial).1
  refine ⟨by simpa [length] using narrow row mem, fun value mem => ?_⟩
  obtain ⟨value, _, rfl⟩ := List.mem_map.mp mem
  exact isScalar_element value

/-- A formula without references goes alike at two cells if its names do, by induction on the
formula.
-/
theorem agree_eval_atCell (hp : p.InGrid) (hq : q.InGrid) (e : Expr)
    (free : ∀ part, e.Contains part → ¬part.IsReference)
    (room : ∀ part, e.Contains part → part.HasRoom)
    (named : ∀ n, e.Contains (.name n) → Agree (Value.Moved p q) (names n) (names' n))
    : Agree (Value.Moved p q) (e.eval names (ctx.atCell p)) (e.eval names' (ctx.atCell q)) := by
  induction e using induction_children with
  | step e ih =>
    have children : ∀ child ∈ e.children, Agree (Value.Moved p q)
        (child.eval names (ctx.atCell p)) (child.eval names' (ctx.atCell q)) :=
      fun child below => ih child below
        (fun part within => free part (contains_child below within))
        (fun part within => room part (contains_child below within))
        fun n within => named n (contains_child below within)
    have member (child : Expr) (below : child ∈ e.children)
        : Agree (Agree fun as bs => (Value.union as).Moved p q (.union bs))
            (memberAreas (ctx.atCell p) child fun _ => child.eval names (ctx.atCell p))
            (memberAreas (ctx.atCell q) child fun _ => child.eval names' (ctx.atCell q)) := by
      have noReference := free child (contains_child below child.contains_self)
      rw [memberAreas_of_not_isReference _ noReference,
        memberAreas_of_not_isReference _ noReference]
      exact (children child below).map fun _ _ => agree_areasOf_moved
    cases e with
    | cell ref a => exact absurd trivial (free _ (contains_self _))
    | range ref r => exact absurd trivial (free _ (contains_self _))
    | name n => exact named n (contains_self _)
    | binary op left right =>
      exact agree_eval_binary (children left (by simp [Expr.children]))
        (children right (by simp [Expr.children])) fun _ _ _ _ =>
          Context.agree_binary_atCell hp hq op
    | union left right =>
      refine (member left (by simp [Expr.children])).bind fun as as' first => ?_
      cases first with
      | error e => exact .ok (Value.moved_of_isScalar rfl)
      | ok first =>
        refine (member right (by simp [Expr.children])).bind fun bs bs' second => ?_
        cases second with
        | error e => exact .ok (Value.moved_of_isScalar rfl)
        | ok second => exact .ok (moved_union_append first second)
    | unary op operand =>
      exact agree_eval_unary (children operand (by simp [Expr.children])) fun _ _ =>
        Context.agree_unary_atCell hp hq op
    | call f arguments =>
      exact agree_eval_call children fun function _ _ =>
        function.agree_apply_of_correspondence (ctx.correspondence_atCell hp hq)
    | array rows =>
      obtain ⟨short, narrow⟩ := room _ (contains_self _)
      have elements : evalRows names (ctx.atCell p) rows = evalRows names' (ctx.atCell q) rows :=
        evalRows_eq (fun _ _ => element_moved) fun row inRows e inRow =>
          children e (List.mem_flatten.mpr ⟨row, inRows, inRow⟩)
      refine (Agree.of_eq (R := Eq) elements fun _ => rfl).with_runs.bind fun values _ h => ?_
      obtain ⟨rfl, run, _⟩ := h
      obtain ⟨length, each⟩ := shape_of_evalRows run narrow
      have built : Agree _ (Area.ofRows (ctx.atCell p).here values)
          (Area.ofRows (ctx.atCell q).here values) :=
        Area.agree_ofRows hp hq (length ▸ short) (fun row mem => (each row mem).1)
          fun row mem => (each row mem).2
      generalize Area.ofRows (ctx.atCell p).here values = x at built ⊢
      generalize Area.ofRows (ctx.atCell q).here values = y at built ⊢
      cases built with
      | ok moved => exact .ok ⟨moved.1, congrArg Value.area moved.2⟩
      | error e => exact .error _
    | _ => exact .ok (Value.moved_of_isScalar rfl)

end Expr

namespace Context

variable {ctx : Context} {e part : Expr}

/-- Neither the formula nor a name that it uses refers to cells, and every array constant has room
wherever in the grid the formula stands.
-/
structure Standalone (ctx : Context) (e : Expr) : Prop where
  free : ∀ part, ctx.Uses e part → ¬part.IsReference
  room : ∀ part, ctx.Uses e part → part.HasRoom

theorem Standalone.of_uses (h : ctx.Standalone e) (used : ctx.Uses e part) : ctx.Standalone part :=
  ⟨fun part further => h.free part (used.trans further),
    fun part further => h.room part (used.trans further)⟩

theorem shown_atCell (single : ctx.arrayMode = false)
    : (ctx.atCell p).shown v = .ofExcept (v.resolve p) := by
  have single : (ctx.atCell p).arrayMode = false := single
  rw [shown, single]
  rfl

theorem agree_evaluate_atCell (hp : p.InGrid) (hq : q.InGrid) (standalone : ctx.Standalone e)
    : Agree (Value.Moved p q) ((ctx.atCell p).evaluate e) ((ctx.atCell q).evaluate e) := by
  have sameNames (n : String) : (ctx.atCell q).definition? n = (ctx.atCell p).definition? n := rfl
  refine agree_evaluateWithin (P := ctx.Standalone) (Value.moved_of_isScalar rfl) sameNames
    (fun e part h used => h.of_uses used) ?_ (Nat.le_refl maxNameDepth) standalone
  intro depth _ e h named
  exact e.agree_eval_atCell hp hq (fun part within => h.free part (uses_of_contains within))
    (fun part within => h.room part (uses_of_contains within)) named

/-- A formula that refers to no cells has the same value at every cell of the grid, but for the
place of its areas, or fails in the same way; and an ordinary formula shows the same scalar.
-/
theorem evaluate_atCell (ctx : Context) (e : Expr) (p q : Position) (hp : p.InGrid) (hq : q.InGrid)
    (standalone : ctx.Standalone e)
    : (ctx.atCell q).evaluate e = ((ctx.atCell p).evaluate e).map (Value.moveTo q)
      ∧ (∀ v, (ctx.atCell p).evaluate e = .ok v → v.StandsAt p)
      ∧ (ctx.arrayMode = false → ∀ text, Expr.parse text = .ok e →
          (ctx.atCell q).evaluateFormula text = (ctx.atCell p).evaluateFormula text
            ∧ ∀ v, (ctx.atCell p).evaluateFormula text = .ok v → v.isScalar) := by
  have agree := agree_evaluate_atCell hp hq standalone
  refine ⟨?_, fun v run => ?_, fun single text parsed => ⟨?_, fun v run => ?_⟩⟩
  · rw [agree.map_eq (g := id) fun _ _ h => h.moved.symm, Except.map_id]
    rfl
  · obtain ⟨_, _, h⟩ := agree.exists_of_eq_ok run
    exact h.stands
  · rw [evaluateFormula_of_parse parsed, evaluateFormula_of_parse parsed]
    refine (agree.bind_eq fun v w h => ?_).symm
    rw [shown_atCell single, shown_atCell single, h.resolve]
  · rw [evaluateFormula_of_parse parsed] at run
    obtain ⟨value, _, same⟩ := except_bind_eq_ok.mp run
    cases same
    rw [shown_atCell single]
    exact Value.isScalar_ofExcept fun _ seen => (Value.isScalar_of_resolve seen).1

/-- A row and a column joined as text make up the same table at every cell. -/
theorem evaluate_atCell_table
    : let ctx : Context := { arrayMode := true }
      let e : Expr :=
        .binary .concat (.array [[.text "a", .text "b"]]) (.array [[.text "c"], [.text "d"]])
      let q : Position := ⟨1048575, 16383⟩
      ctx.Standalone e
        ∧ (ctx.atCell q).evaluate e = .ok (.area ⟨q, 2, 2, 0, 0, 2, 2,
            #[.text "ac", .text "bc", .text "ad", .text "bd"]⟩) := by
  intro ctx e q
  have constant {rows : List (List Expr)} (room : (Expr.array rows).HasRoom)
      (texts : ∀ child ∈ rows.flatten, ∃ t, child = .text t)
      : ∀ part, (Expr.array rows).Contains part
        → ¬part.IsReference ∧ part.HasRoom ∧ ∀ n, part ≠ .name n := by
    refine Expr.forall_contains_iff.mpr ⟨⟨id, room, nofun⟩, fun child mem => ?_⟩
    obtain ⟨t, rfl⟩ := texts child mem
    exact Expr.forall_contains_of_leaf rfl ⟨id, trivial, nofun⟩
  have parts (part : Expr) (within : e.Contains part)
      : ¬part.IsReference ∧ part.HasRoom ∧ ∀ n, part ≠ .name n := by
    rcases Expr.contains_binary.mp within with rfl | within | within
    · exact ⟨id, trivial, nofun⟩
    · exact constant ⟨by decide, by decide⟩ (by simp) part within
    · exact constant ⟨by decide, by decide⟩ (by simp) part within
  have noNames (n : String) : ¬e.Contains (.name n) := fun within => (parts _ within).2.2 n rfl
  have standalone : ctx.Standalone e :=
    ⟨fun part used => (parts part (contains_of_uses noNames used)).1,
      fun part used => (parts part (contains_of_uses noNames used)).2.1⟩
  obtain ⟨moved, _⟩ :=
    evaluate_atCell ctx e ⟨0, 0⟩ q ⟨by decide, by decide⟩ ⟨by decide, by decide⟩ standalone
  refine ⟨standalone, moved.trans ?_⟩
  have run : (ctx.atCell ⟨0, 0⟩).evaluate e = .ok (.area ⟨⟨0, 0⟩, 2, 2, 0, 0, 2, 2,
      #[.text "ac", .text "bc", .text "ad", .text "bd"]⟩) := by
    with_unfolding_all rfl
  rw [run]
  rfl

end Context

end Spreadsheet
