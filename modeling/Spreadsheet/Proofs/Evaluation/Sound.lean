import Spreadsheet.Evaluation.Evaluate
import Spreadsheet.Proofs.Evaluation.Reference
import Spreadsheet.Proofs.Formula.WellFormed
import Spreadsheet.Proofs.Function.Sound

/-! Evaluating a formula that was parsed gives sound values at every step. What can fail is only
what a user can do wrong: a formula that cannot be read, a call that is not possible, and names
that refer to each other too deeply.
-/

namespace Spreadsheet

-- Reading cells

/-- A reading comes to a result or an error value, and a result has a property. -/
def Reading.Gives {α : Type} (reading : Reading α) (P : α → Prop) : Prop :=
  ∃ x, reading.run = .ok x ∧ ∀ a, x = .ok a → P a

namespace Reading

variable {α β : Type} {P : α → Prop} {Q : β → Prop}

theorem gives_pure {a : α} (h : P a) : Gives (pure a) P :=
  ⟨.ok a, rfl, by simpa using h⟩

theorem gives_throw (e : CellError) : Gives (throw e) P :=
  ⟨.error e, rfl, by simp⟩

theorem Gives.bind {reading : Reading α} {next : α → Reading β} (h : reading.Gives P)
    (then_ : ∀ a, P a → (next a).Gives Q)
    : Gives (reading >>= next) Q := by
  obtain ⟨x, read, holds⟩ := h
  have run : (reading >>= next).run = reading.run >>= ExceptT.bindCont next := rfl
  cases x with
  | error e => exact ⟨.error e, by rw [run, read]; rfl, by simp⟩
  | ok a =>
    obtain ⟨y, read', holds'⟩ := then_ a (holds a rfl)
    exact ⟨y, by rw [run, read]; exact read', holds'⟩

theorem gives_mapM {f : α → Reading β} (xs : List α) (h : ∀ x ∈ xs, (f x).Gives Q)
    : Gives (xs.mapM f) fun ys => ∀ y ∈ ys, Q y := by
  induction xs with
  | nil => exact gives_pure (by simp)
  | cons x xs ih =>
    simp only [List.mem_cons, forall_eq_or_imp] at h
    rw [List.mapM_cons]
    refine h.1.bind fun y first => (ih h.2).bind fun ys others => gives_pure ?_
    simp only [List.mem_cons, forall_eq_or_imp]
    exact ⟨first, others⟩

end Reading

theorem Range.InGrid.colCount_le {r : Range} (inGrid : r.InGrid) : r.colCount ≤ widestArea := by
  have col := inGrid.2
  simp only [Range.colCount, Address.position, widestArea, maxColumns, columnLimit] at col ⊢
  omega

/-- What a sheet holds is sound. -/
theorem Area.Shows.sound {area : Area Value} {sheet : Sheet} {r : Range}
    (shows_ : area.Shows sheet r) (narrow : r.colCount ≤ widestArea)
    : area.Sound := by
  refine ⟨?_, ?_, ?_, ?_⟩
  · rw [shows_.height]
    exact Nat.succ_pos _
  · rw [shows_.width]
    exact Nat.succ_pos _
  · rw [shows_.width]
    exact narrow
  · intro value mem
    obtain ⟨p, rfl⟩ := shows_.stored value mem
    exact Value.isPlain_ofContent _

/-- What is read of a range of a sheet is sound. -/
theorem Sheet.gives_area (sheet : Sheet) {r : Range} (inGrid : r.InGrid)
    : (sheet.area r).Gives Area.Sound := by
  rcases sheet.area_cases inGrid with ⟨_, read⟩ | ⟨_, area, read, shows_⟩
  · rw [read]
    exact Reading.gives_throw _
  · rw [read]
    exact Reading.gives_pure (shows_.sound inGrid.colCount_le)

theorem Range.InGrid.gives_blankArea {r : Range} (inGrid : r.InGrid)
    : Reading.Gives (ExceptT.lift r.blankArea) Area.Sound := by
  rw [Sheet.blankArea_eq_ok inGrid.fits]
  refine Reading.gives_pure ⟨Nat.succ_pos _, Nat.succ_pos _, inGrid.colCount_le, ?_⟩
  simp [Area.unstored]

namespace Context

variable {ctx : Context} {sheet : Option SheetRef} {r : Range} {a : Address}

theorem gives_areas (inGrid : r.InGrid)
    : (ctx.areas sheet r).Gives fun areas => ∀ a ∈ areas, a.Sound := by
  unfold areas
  split
  · refine inGrid.gives_blankArea.bind fun area sound => Reading.gives_pure ?_
    simpa using sound
  · next book _ =>
    refine Reading.Gives.bind (P := fun _ => True) ⟨ctx.sheets book sheet, rfl, by simp⟩ ?_
    intro indices _
    refine Reading.gives_mapM indices fun index _ => ?_
    split
    · next sheet _ => exact sheet.gives_area inGrid
    · exact Reading.gives_throw _

theorem exists_readValue {reading : Reading Value} {P : Value → Prop} (errors : ∀ e, P (.error e))
    (h : reading.Gives P)
    : ∃ value, readValue reading = .ok value ∧ P value := by
  obtain ⟨x, read, holds⟩ := h
  refine ⟨.ofExcept x, by rw [readValue, read]; rfl, ?_⟩
  cases x with
  | error e => exact errors e
  | ok value => exact holds value rfl

theorem exists_rangeValue (inGrid : r.InGrid)
    : ∃ value, ctx.rangeValue sheet r = .ok value ∧ value.Sound := by
  refine exists_readValue (fun _ => trivial) ((gives_areas inGrid).bind fun areas sound => ?_)
  split
  · next area => exact Reading.gives_pure (sound area (by simp))
  · exact Reading.gives_pure sound

theorem exists_cellValue (inGrid : a.position.InGrid)
    : ∃ value, ctx.cellValue sheet a = .ok value ∧ value.Sound := by
  have gives : (ctx.areas sheet (.single a)).Gives fun areas => ∀ a ∈ areas, a.Sound :=
    gives_areas inGrid
  refine exists_readValue (fun _ => trivial) (gives.bind fun areas sound => ?_)
  split
  · next area =>
    have areaSound := sound area (by simp)
    rw [Area.relative?_of_lt areaSound.tall areaSound.wide]
    exact Reading.gives_pure areaSound.stored?.sound
  · exact Reading.gives_pure sound

end Context

-- Evaluating formulas

/-- An evaluation fails at most for a reason that lies in the formula, and a result has a
property.
-/
def Evaluation.Settles {α : Type} (x : Evaluation α) (P : α → Prop) : Prop :=
  (∀ a, x = .ok a → P a) ∧ ∀ e, x ≠ .error (.operation e)

namespace Evaluation

variable {α β : Type} {P : α → Prop} {Q : β → Prop}

theorem settles_ok {a : α} (h : P a) : Settles (.ok a) P :=
  ⟨fun _ same => Except.ok.inj same ▸ h, by simp⟩

theorem settles_error {e : EvalError} (h : ∀ cause, e ≠ .operation cause)
    : Settles (.error e : Evaluation α) P :=
  ⟨by simp, fun cause same => h cause (Except.error.inj same)⟩

theorem Settles.bind {x : Evaluation α} {f : α → Evaluation β} (h : x.Settles P)
    (then_ : ∀ a, P a → (f a).Settles Q)
    : Settles (x >>= f) Q := by
  cases x with
  | error e => exact settles_error fun cause same => h.2 cause (by rw [same])
  | ok a => exact then_ a (h.1 a rfl)

theorem settles_mapError {ε : Type} {x : Except ε α} {f : ε → EvalError}
    (h : ∃ a, x = .ok a ∧ P a)
    : Settles (x.mapError f) P := by
  obtain ⟨a, rfl, holds⟩ := h
  exact settles_ok holds

end Evaluation

open Evaluation

/-- An array constant has room to the right of every cell of the grid, and below it. -/
def Expr.HasRoom : Expr → Prop
  | array rows => rows.length < 0x80000000 ∧ ∀ row ∈ rows, row.length ≤ widestArea
  | _ => True

theorem Context.settles_checkCall (name : String) (count : Nat)
    : (checkCall name count).Settles fun _ => True := by
  unfold checkCall
  split
  · exact settles_error (by simp)
  · split
    · exact settles_error (by simp)
    · split
      · split
        · exact settles_error (by simp)
        · exact settles_ok trivial
      · exact settles_ok trivial

theorem BinaryOperator.exists_evaluate (op : BinaryOperator) (here : Position)
    {left right : Value} (hl : left.Sound) (hr : right.Sound)
    : ∃ value, op.evaluate here left right = .ok value ∧ value.IsPlain := by
  cases op with
  | arithmetic op => exact ⟨_, rfl, op.isPlain_evaluate⟩
  | comparison op => exact op.exists_evaluate hl hr
  | concat => exact ⟨_, rfl, Value.isPlain_concat⟩

namespace Context

variable {ctx : Context} {left right operand : Value}

theorem exists_binary (op : BinaryOperator) (inGrid : ctx.here.InGrid) (hl : left.Sound)
    (hr : right.Sound)
    : ∃ value, ctx.binary op left right = .ok value ∧ value.Sound := by
  unfold binary
  split
  · exact Broadcast.exists_lift₂ inGrid hl hr fun x y hx hy =>
      op.exists_evaluate ctx.here hx.1.sound hy.1.sound
  · obtain ⟨value, evaluated, plain⟩ := op.exists_evaluate ctx.here hl hr
    exact ⟨value, evaluated, plain.sound⟩

theorem exists_unary (op : UnaryOperator) (inGrid : ctx.here.InGrid) (h : operand.Sound)
    : ∃ value, ctx.unary op operand = .ok value ∧ value.Sound := by
  unfold unary
  split
  · exact Broadcast.exists_lift₁ inGrid h fun x hx => ⟨_, rfl, op.isPlain_evaluate hx.sound⟩
  · exact ⟨_, rfl, (op.isPlain_evaluate h).sound⟩

end Context

namespace Expr

variable {names : String → Evaluation Value} {ctx : Context} {e : Expr}

/-- What the value of a formula rests on, apart from the formulas below it. -/
structure Admissible (names : String → Evaluation Value) (e : Expr) : Prop where
  proper : e.Proper
  hasRoom : e.HasRoom
  names : ∀ n, e = .name n → (names n).Settles Value.Sound

theorem sound_areasOf {value : Value} (h : value.Sound)
    : ∀ areas, areasOf value = .ok areas → ∀ a ∈ areas, a.Sound := by
  intro areas found
  cases value with
  | area a =>
    cases found
    intro a' mem
    obtain rfl := List.mem_singleton.mp mem
    exact h
  | union areas =>
    cases found
    exact h
  | _ => cases found

theorem isPlain_element {value : Value} (h : value.Sound) : (element value).IsPlain := by
  unfold element
  split
  · next scalar => exact h.isPlain scalar
  · trivial

/-- The areas of a member of a union. -/
theorem settles_memberAreas (proper : e.Proper) {value : Unit → Evaluation Value}
    (h : (value ()).Settles Value.Sound)
    : (memberAreas ctx e value).Settles fun x => ∀ areas, x = .ok areas → ∀ a ∈ areas, a.Sound := by
  unfold memberAreas
  split
  · next sheet a =>
    have inGrid : (Range.single a).InGrid := proper.2
    exact settles_mapError (Context.gives_areas inGrid)
  · next sheet r => exact settles_mapError (Context.gives_areas proper.2.2)
  · cases found : value () with
    | error cause => exact settles_error fun _ same => h.2 _ (found.trans (by rw [same]))
    | ok v => exact settles_ok (sound_areasOf (h.1 v found))

theorem settles_evalList {es : List Expr}
    (h : ∀ e ∈ es, (e.eval names ctx).Settles Value.Sound)
    : (evalList names ctx es).Settles fun values =>
        values.length = es.length ∧ ∀ value ∈ values, value.Sound := by
  induction es with
  | nil => exact settles_ok ⟨rfl, by simp⟩
  | cons e es ih =>
    simp only [List.mem_cons, forall_eq_or_imp] at h
    refine h.1.bind fun value sound => (ih h.2).bind fun values others => settles_ok ?_
    simp only [List.length_cons, others.1, List.mem_cons, forall_eq_or_imp, true_and]
    exact ⟨sound, others.2⟩

theorem settles_evalRows {rows : List (List Expr)} {width : Nat}
    (even : ∀ row ∈ rows, row.length = width)
    (h : ∀ row ∈ rows, ∀ e ∈ row, (e.eval names ctx).Settles Value.Sound)
    : (evalRows names ctx rows).Settles fun values =>
        values.length = rows.length ∧ (∀ row ∈ values, row.length = width)
        ∧ ∀ row ∈ values, ∀ value ∈ row, value.IsPlain := by
  induction rows with
  | nil => exact settles_ok ⟨rfl, by simp, by simp⟩
  | cons row rows ih =>
    simp only [List.mem_cons, forall_eq_or_imp] at h even
    refine (settles_evalList h.1).bind fun values first =>
      (ih even.2 h.2).bind fun more others => settles_ok ?_
    simp only [List.length_cons, others.1, List.mem_cons, forall_eq_or_imp, List.length_map,
      first.1, even.1, List.mem_map, forall_exists_index, and_imp, forall_apply_eq_imp_iff₂,
      true_and]
    exact ⟨others.2.1, fun value mem => isPlain_element (first.2 value mem), others.2.2⟩

/-- A formula settles if all its parts are admissible, by induction on the formula. -/
theorem settles_eval (inGrid : ctx.here.InGrid) (e : Expr)
    (h : ∀ part, e.Contains part → part.Admissible names)
    : (e.eval names ctx).Settles Value.Sound := by
  induction e using induction_children with
  | step e ih =>
    obtain ⟨admissible, below⟩ := forall_contains_iff.mp h
    have children : ∀ child ∈ e.children, (child.eval names ctx).Settles Value.Sound :=
      fun child mem => ih child mem (below child mem)
    cases e with
    | number x => exact settles_ok (Number.not_isNaN_of_isFinite admissible.proper.finite)
    | text t => exact settles_ok trivial
    | boolean b => exact settles_ok trivial
    | error e => exact settles_ok trivial
    | missing => exact settles_ok trivial
    | cell sheet a => exact settles_mapError (Context.exists_cellValue admissible.proper.2)
    | range sheet r => exact settles_mapError (Context.exists_rangeValue admissible.proper.2.2)
    | name n => exact admissible.names n rfl
    | binary op left right =>
      refine (children left (by simp [Expr.children])).bind fun l hl =>
        (children right (by simp [Expr.children])).bind fun r hr => ?_
      exact settles_mapError (Context.exists_binary op inGrid hl hr)
    | union left right =>
      have leftIn : left ∈ (union left right).children := by simp [Expr.children]
      have rightIn : right ∈ (union left right).children := by simp [Expr.children]
      refine (settles_memberAreas (below left leftIn left left.contains_self).proper
        (children left leftIn)).bind fun first sound => ?_
      split
      · exact settles_ok trivial
      · next areas =>
        refine (settles_memberAreas (below right rightIn right right.contains_self).proper
          (children right rightIn)).bind fun second sound' => ?_
        split
        · exact settles_ok trivial
        · next more =>
          refine settles_ok fun a mem => ?_
          rcases List.mem_append.mp mem with mem | mem
          · exact sound areas rfl a mem
          · exact sound' more rfl a mem
    | unary op operand =>
      refine (children operand (by simp [Expr.children])).bind fun value sound => ?_
      exact settles_mapError (Context.exists_unary op inGrid sound)
    | call f arguments =>
      refine (Context.settles_checkCall f arguments.length).bind fun function _ =>
        (settles_evalList children).bind fun values sound => ?_
      exact settles_mapError (function.exists_apply inGrid sound.2)
    | array rows =>
      obtain ⟨nonempty, ⟨width, wide, even⟩, _⟩ := admissible.proper
      obtain ⟨few, narrow⟩ := admissible.hasRoom
      refine (settles_evalRows even fun row inRows e inRow =>
        children e (List.mem_flatten.mpr ⟨row, inRows, inRow⟩)).bind fun values h => ?_
      obtain ⟨length, evenValues, plain⟩ := h
      obtain ⟨row, others, rfl⟩ := List.exists_cons_of_ne_nil nonempty
      obtain ⟨area, built, sound⟩ := Area.exists_ofRows inGrid
        (List.ne_nil_of_length_pos (length ▸ Nat.succ_pos _)) (length ▸ few) wide
        (even row List.mem_cons_self ▸ narrow row List.mem_cons_self) evenValues plain
      rw [built]
      exact settles_ok sound

end Expr

namespace Context

variable {ctx : Context}

/-- A formula is part of another one, or of what the names in it stand for. -/
def Uses (ctx : Context) : Expr → Expr → Prop :=
  Relation.ReflTransGen fun e part =>
    part ∈ e.children
      ∨ ∃ n d, e = .name n ∧ ctx.definition? n = some d ∧ Expr.parse d.formula = .ok part

theorem uses_of_contains {e part : Expr} (h : e.Contains part) : ctx.Uses e part := by
  induction h with
  | refl => exact .refl
  | tail _ below ih => exact ih.tail (.inl below)

/-- A formula without names uses its own parts only. -/
theorem contains_of_uses {e part : Expr} (noNames : ∀ n, ¬e.Contains (.name n))
    (used : ctx.Uses e part)
    : e.Contains part := by
  induction used with
  | refl => exact e.contains_self
  | tail _ step ih =>
    rcases step with below | ⟨n, _, rfl, _, _⟩
    · exact .tail ih below
    · exact absurd ih (noNames n)

/-- Names settle as deep as they are followed, by induction on the depth. -/
theorem settles_nameValue (inGrid : ctx.here.InGrid) (depth : Nat) (n : String)
    (room : ∀ part, ctx.Uses (.name n) part → part.HasRoom)
    : (ctx.nameValue depth n).Settles Value.Sound := by
  induction depth generalizing n with
  | zero =>
    unfold nameValue
    split
    · exact settles_ok trivial
    · exact settles_error (by simp)
  | succ depth ih =>
    unfold nameValue
    split
    · exact settles_ok trivial
    · next d found =>
      cases parsed : Expr.parse d.formula with
      | error cause => exact settles_error (by simp)
      | ok e =>
        have uses {part : Expr} (h : e.Contains part) : ctx.Uses (.name n) part :=
          .head (.inr ⟨n, d, rfl, found, parsed⟩) (uses_of_contains h)
        refine Expr.settles_eval inGrid e fun part within => ⟨?_, room part (uses within), ?_⟩
        · exact (Expr.wellFormed_of_parse parsed).1 part within
        · intro n' same
          subst same
          exact ih n' fun part' further => room part' ((uses within).trans further)

theorem settles_evaluateWithin (inGrid : ctx.here.InGrid) (depth : Nat) {e : Expr}
    (wellFormed : e.WellFormed) (room : ∀ part, ctx.Uses e part → part.HasRoom)
    : (ctx.evaluateWithin depth e).Settles Value.Sound := by
  refine Expr.settles_eval inGrid e fun part within => ⟨wellFormed part within, ?_, ?_⟩
  · exact room part (uses_of_contains within)
  · intro n same
    subst same
    exact settles_nameValue inGrid depth n fun part' further =>
      room part' ((uses_of_contains within).trans further)

/-- Everything used by a well-formed formula is well formed. -/
theorem wellFormed_of_uses {e part : Expr} (wellFormed : e.WellFormed) (h : ctx.Uses e part)
    : part.WellFormed := by
  induction h with
  | refl => exact wellFormed
  | tail _ step ih =>
    rcases step with below | ⟨_, _, _, _, parsed⟩
    · exact (Expr.wellFormed_iff.mp ih).2 _ below
    · exact (Expr.wellFormed_of_parse parsed).1

theorem isScalar_shown {value : Value} (single : ctx.arrayMode = false) (h : value.Sound)
    : (ctx.shown value).isScalar := by
  rw [shown, single]
  exact (Value.isPlain_ofExcept fun seen found => (h.resolve found).1).isScalar

theorem evaluateFormula_of_parse {text : String} {e : Expr} (h : Expr.parse text = .ok e)
    : ctx.evaluateFormula text = ctx.evaluate e >>= fun value => .ok (ctx.shown value) := by
  rw [evaluateFormula, h]
  rfl

/-- In the grid, and with room for every array constant that it uses, a formula never fails at an
operation: all values on the way are sound, and what a cell shows of an ordinary formula is a
single value.
-/
theorem evaluateFormula_sound (ctx : Context) (text : String) (inGrid : ctx.here.InGrid)
    (room : ∀ e part, Expr.parse text = .ok e → ctx.Uses e part → part.HasRoom)
    : (∀ e, ctx.evaluateFormula text ≠ .error (.operation e))
      ∧ (∀ e part, Expr.parse text = .ok e → ctx.Uses e part
          → ∀ depth value, ctx.evaluateWithin depth part = .ok value → value.Sound)
      ∧ (ctx.arrayMode = false
          → ∀ value, ctx.evaluateFormula text = .ok value → value.isScalar) := by
  cases parsed : Expr.parse text with
  | error cause =>
    have failed : ctx.evaluateFormula text = .error (.parse cause) := by
      rw [evaluateFormula, parsed]
      rfl
    exact ⟨by simp [failed], by simp, by simp [failed]⟩
  | ok e =>
    have wellFormed := (Expr.wellFormed_of_parse parsed).1
    have settles {part : Expr} (used : ctx.Uses e part) (depth : Nat)
        : (ctx.evaluateWithin depth part).Settles Value.Sound :=
      settles_evaluateWithin inGrid depth (wellFormed_of_uses wellFormed used)
        fun part' further => room e part' parsed (used.trans further)
    have settled : (ctx.evaluateFormula text).Settles fun value =>
        ctx.arrayMode = false → value.isScalar := by
      rw [evaluateFormula_of_parse parsed]
      refine (settles .refl maxNameDepth).bind fun value sound => settles_ok ?_
      exact fun single => isScalar_shown single sound
    refine ⟨settled.2, ?_, fun single value shown => settled.1 value shown single⟩
    intro e' part same used depth
    cases same
    exact (settles used depth).1

/-- Of an array constant, a cell shows a single value. -/
theorem evaluateFormula_sound_constant
    : let ctx : Context := {}
      let text := "=\x7b\"a\",\"b\"\x7d"
      (∀ e, ctx.evaluateFormula text ≠ .error (.operation e))
        ∧ ∀ value, ctx.evaluateFormula text = .ok value → value.isScalar := by
  intro ctx text
  have parsed : Expr.parse "=\x7b\"a\",\"b\"\x7d" = .ok (.array [[.text "a", .text "b"]]) := by
    with_unfolding_all rfl
  suffices room : ∀ e part, Expr.parse text = .ok e → ctx.Uses e part → part.HasRoom by
    have single : ctx.arrayMode = false := rfl
    obtain ⟨noFailure, _, scalar⟩ :=
      evaluateFormula_sound ctx text ⟨by decide, by decide⟩ room
    exact ⟨noFailure, scalar single⟩
  intro e part same used
  cases parsed.symm.trans same
  rcases used.cases_head with rfl | ⟨child, first, rest⟩
  · exact ⟨by decide, by decide⟩
  · -- An element has no formula below it.
    have element : ∃ t, child = .text t := by
      rcases first with mem | ⟨_, _, named, _⟩
      · simp [Expr.children] at mem
        rcases mem with rfl | rfl <;> exact ⟨_, rfl⟩
      · cases named
    obtain ⟨t, rfl⟩ := element
    rcases rest.cases_head with rfl | ⟨_, below, _⟩
    · trivial
    · rcases below with mem | ⟨_, _, named, _⟩
      · cases mem
      · cases named

end Context

end Spreadsheet
