import Spreadsheet.Proofs.Evaluation.Agreement
import Spreadsheet.Proofs.Evaluation.CellReference
import Spreadsheet.Proofs.Formula.Operation
import Spreadsheet.Proofs.Value.Pointwise

/-! Where no areas are involved, an array formula has the same value as an ordinary one, with one
exception: an array formula looks at the errors of both operands before it applies an operator, and
in an ordinary one a left operand that is no number hides an error on the right from arithmetic.
-/

namespace Spreadsheet

/-- Outermost, the formula does not build an area or a union, and refers to no range. -/
def Expr.IsSingle : Expr → Prop
  | range _ _ => False
  | union _ _ => False
  | array _ => False
  | _ => True

/-- The values are the same, and no area. -/
def Value.SameSingle (v w : Value) : Prop :=
  v = w ∧ v.isArea = false

namespace Value

variable {here : Position} {value left right w : Value}

theorem eq_of_resolve (single : value.isArea = false) (seen : value.resolve here = .ok w)
    : value = w := by
  cases value with
  | area a => cases single
  | union areas => simp [resolve] at seen
  | error e => simp [resolve] at seen
  | _ => simpa [resolve] using seen

/-- Errors other than `#VALUE!` are seen only of values that are these errors. -/
theorem eq_error_of_resolve {e : CellError} (single : value.isArea = false)
    (seen : value.resolve here = .error e) (other : e ≠ .value)
    : value = .error e := by
  cases value with
  | area a => cases single
  | union areas =>
    rw [resolve] at seen
    cases seen
    exact absurd rfl other
  | error e' => simpa [resolve] using seen
  | _ => simp [resolve] at seen

theorem eq_of_forall₂_sameSingle {values values' : List Value}
    (same : List.Forall₂ SameSingle values values')
    : values = values' ∧ ∀ value ∈ values, value.isArea = false := by
  induction same with
  | nil => exact ⟨rfl, by simp⟩
  | cons first _ ih =>
    obtain ⟨rfl, single⟩ := first
    obtain ⟨rfl, others⟩ := ih
    simp only [List.mem_cons, forall_eq_or_imp, true_and]
    exact ⟨single, others⟩

end Value

/-- An operator looks at the errors of its operands by itself, unless one is hidden from it. -/
theorem BinaryOperator.onSeen_evaluate (op : BinaryOperator) {here : Position} {left right : Value}
    (hl : left.isArea = false) (hr : right.isArea = false)
    (shown : ∀ a, op = .arithmetic a → ¬left.Hides right)
    : Broadcast.onSeen (op.evaluate here) (left.resolve here) (right.resolve here)
      = op.evaluate here left right := by
  cases seenLeft : left.resolve here with
  | error e => exact (op.evaluate_of_left_error seenLeft).symm
  | ok x =>
    cases seenRight : right.resolve here with
    | error e =>
      refine (op.evaluate_of_right_error seenLeft seenRight fun a same hides => ?_).symm
      obtain ⟨t, e', isText, noNumeral, isError, other⟩ := hides
      cases isError
      exact shown a same ⟨t, e, (Value.eq_of_resolve hl seenLeft).trans isText, noNumeral,
        Value.eq_error_of_resolve hr seenRight other, other⟩
    | ok y =>
      exact op.evaluate_congr ((Value.resolve_of_resolve seenLeft).trans seenLeft.symm)
        ((Value.resolve_of_resolve seenRight).trans seenRight.symm)

namespace Context

variable {ctx : Context} {left right operand : Value}

/-- Both modes apply a binary operator alike to values that are no areas. -/
theorem agree_binary (op : BinaryOperator) (countable : ctx.here.Countable)
    (hl : left.isArea = false) (hr : right.isArea = false)
    (shown : ∀ a, op = .arithmetic a → ¬left.Hides right)
    : Agree Value.SameSingle ((ctx.inMode false).binary op left right)
        ((ctx.inMode true).binary op left right) := by
  have lifted : (ctx.inMode true).binary op left right
      = Broadcast.lift₂ ctx.here left right (op.evaluate ctx.here) := rfl
  have direct : (ctx.inMode false).binary op left right = op.evaluate ctx.here left right := rfl
  rw [lifted, direct, Broadcast.lift₂_of_not_isArea hl hr countable.1 countable.2,
    op.onSeen_evaluate hl hr shown]
  cases evaluated : op.evaluate ctx.here left right with
  | error e => exact .error e
  | ok value =>
    exact .ok ⟨rfl, Value.not_isArea_of_isScalar (op.isScalar_of_evaluate evaluated)⟩

theorem agree_unary (op : UnaryOperator) (countable : ctx.here.Countable)
    (single : operand.isArea = false)
    : Agree Value.SameSingle ((ctx.inMode false).unary op operand)
        ((ctx.inMode true).unary op operand) := by
  have lifted : (ctx.inMode true).unary op operand
      = Broadcast.lift₁ ctx.here operand fun value => .ok (op.evaluate ctx.here value) := rfl
  have direct : (ctx.inMode false).unary op operand = .ok (op.evaluate ctx.here operand) := rfl
  rw [lifted, direct, Broadcast.lift₁_of_not_isArea single countable.1 countable.2,
    op.evaluate_congr Value.resolve_ofExcept_resolve]
  exact .ok ⟨rfl, Value.not_isArea_of_isScalar op.isScalar_evaluate⟩

/-- Both modes call a function alike on values that are no areas. -/
theorem agree_apply (f : Function) (countable : ctx.here.Countable) {arguments : List Value}
    (single : ∀ argument ∈ arguments, argument.isArea = false)
    : Agree Value.SameSingle (f.apply (ctx.inMode false) arguments)
        (f.apply (ctx.inMode true) arguments) := by
  cases f.acts ctx arguments with
  | lifts g argument run given plain =>
    have single : argument.isArea = false := by
      rcases given with rfl | mem
      · rfl
      · exact single argument mem
    have lifted : (ctx.inMode true).lift argument g
        = Broadcast.lift₁ ctx.here argument fun value => .ok (g value) := rfl
    rw [run, run, lifted, Broadcast.lift₁_of_not_isArea single countable.1 countable.2]
    exact .ok ⟨rfl, (plain _).not_isArea⟩
  | gives value run plain anyMode =>
    rw [anyMode, anyMode, run]
    exact .ok ⟨rfl, plain.not_isArea⟩
  | passesOn value run given anyMode =>
    rw [anyMode, anyMode, run]
    exact .ok ⟨rfl, single value given⟩

/-- A reference to a cell is never an area. -/
theorem not_isArea_cellValue {ref : Option SheetRef} {a : Address} {value : Value}
    (read : ctx.cellValue ref a = .ok value)
    : value.isArea = false := by
  rcases readValue_eq_ok.mp read with read | ⟨e, _, rfl⟩
  · obtain ⟨areas, reads, same⟩ := Reading.bind_eq_pure.mp read
    split at same
    · next area =>
      obtain ⟨sheet, shows_, _⟩ := exists_sheet_of_rangeValue (rangeValue_eq_area.mpr reads)
      rw [shows_.relative?_corner] at same
      cases same
      exact (Value.isPlain_ofContent _).not_isArea
    · cases same
      rfl
  · rfl

end Context

namespace Expr

variable {names names' : String → Evaluation Value} {ctx : Context}

/-- Both modes evaluate a formula alike that builds no areas, by induction on the formula. -/
theorem agree_modes (countable : ctx.here.Countable) (e : Expr)
    (single : ∀ part, e.Contains part → part.IsSingle)
    (named : ∀ n, e.Contains (.name n) → Agree Value.SameSingle (names n) (names' n))
    (shown : ∀ op left right, e.Contains (.binary (.arithmetic op) left right) → ∀ l r,
      left.eval names (ctx.inMode false) = .ok l → right.eval names (ctx.inMode false) = .ok r
      → ¬l.Hides r)
    : Agree Value.SameSingle (e.eval names (ctx.inMode false))
        (e.eval names' (ctx.inMode true)) := by
  induction e using induction_children with
  | step e ih =>
    have outermost : e.IsSingle := single e (contains_self _)
    have children : ∀ child ∈ e.children, Agree Value.SameSingle
        (child.eval names (ctx.inMode false)) (child.eval names' (ctx.inMode true)) :=
      fun child below => ih child below
        (fun part within => single part (contains_child below within))
        (fun n within => named n (contains_child below within))
        fun op left right within => shown op left right (contains_child below within)
    cases e with
    | name n => exact named n (contains_self _)
    | cell sheet a =>
      have same : (ctx.inMode true).cellValue sheet a = (ctx.inMode false).cellValue sheet a := rfl
      rw [eval, eval, same]
      cases read : (ctx.inMode false).cellValue sheet a with
      | error e => exact .error _
      | ok value => exact .ok ⟨rfl, Context.not_isArea_cellValue read⟩
    | binary op left right =>
      refine agree_eval_binary (children left (by simp [Expr.children])).with_runs
        (children right (by simp [Expr.children])).with_runs fun l l' r r' hl hr => ?_
      obtain ⟨⟨rfl, singleLeft⟩, ranLeft, _⟩ := hl
      obtain ⟨⟨rfl, singleRight⟩, ranRight, _⟩ := hr
      refine Context.agree_binary op countable singleLeft singleRight ?_
      rintro a rfl
      exact shown a left right (contains_self _) l r ranLeft ranRight
    | unary op operand =>
      refine agree_eval_unary (children operand (by simp [Expr.children])) fun v v' hv => ?_
      obtain ⟨rfl, single⟩ := hv
      exact Context.agree_unary op countable single
    | call f arguments =>
      refine agree_eval_call children fun function values values' same => ?_
      obtain ⟨rfl, single⟩ := Value.eq_of_forall₂_sameSingle same
      exact Context.agree_apply function countable single
    | range sheet r => exact outermost.elim
    | union left right => exact outermost.elim
    | array rows => exact outermost.elim
    | _ => exact .ok ⟨rfl, rfl⟩

end Expr

namespace Context

variable {ctx : Context} {e part : Expr}

/-- Neither the formula nor a name that it uses builds an area or a union or refers to a range, and
in an ordinary formula no error is hidden from an arithmetic operator.
-/
structure Modeless (ctx : Context) (e : Expr) : Prop where
  single : ∀ part, ctx.Uses e part → part.IsSingle
  shown : ∀ op left right, ctx.Uses e (.binary (.arithmetic op) left right) → ∀ l r,
    (ctx.inMode false).evaluate left = .ok l → (ctx.inMode false).evaluate right = .ok r
    → ¬l.Hides r

theorem Modeless.of_uses (h : ctx.Modeless e) (used : ctx.Uses e part) : ctx.Modeless part :=
  ⟨fun part further => h.single part (used.trans further),
    fun op left right further => h.shown op left right (used.trans further)⟩

/-- A formula without ranges, unions and array constants, also in the names that it uses, has the
same value in both modes, unless an error is hidden from one of its arithmetic operators.
-/
theorem evaluate_inMode (ctx : Context) (e : Expr) (countable : ctx.here.Countable)
    (modeless : ctx.Modeless e)
    : (ctx.inMode true).evaluate e = (ctx.inMode false).evaluate e := by
  have sameNames (n : String)
      : (ctx.inMode true).definition? n = (ctx.inMode false).definition? n :=
    rfl
  have agree : Agree Value.SameSingle ((ctx.inMode false).evaluate e)
      ((ctx.inMode true).evaluate e) := by
    refine agree_evaluateWithin (P := ctx.Modeless) ⟨rfl, rfl⟩ sameNames
      (fun e part h used => h.of_uses used) ?_ (Nat.le_refl maxNameDepth) modeless
    intro depth le e h named
    refine e.agree_modes countable (fun part within => h.single part (uses_of_contains within))
      named ?_
    intro op left right within l r ranLeft ranRight
    -- With more names to follow, the operands have the same values.
    exact h.shown op left right (uses_of_contains within) l r
      ((extends_evaluateWithin le left).eq_ok ranLeft)
      ((extends_evaluateWithin le right).eq_ok ranRight)
  exact (agree.eq fun _ _ same => same.1).symm

/-- A truth value hides no error: the sum with it is the error in both modes. -/
theorem evaluate_inMode_truth_value
    : let ctx : Context := {}
      let e : Expr := .binary (.arithmetic .add) (.boolean true) (.error .div0)
      (ctx.inMode true).evaluate e = (ctx.inMode false).evaluate e := by
  intro ctx e
  have parts {part : Expr} (used : ctx.Uses e part)
      : part = e ∨ part = .boolean true ∨ part = .error .div0 := by
    have noNames (n : String) : ¬e.Contains (.name n) := by
      rw [Expr.contains_binary_leaves rfl rfl]
      simp
    exact (Expr.contains_binary_leaves rfl rfl).mp (contains_of_uses noNames used)
  refine evaluate_inMode ctx e ⟨by decide, by decide⟩ ⟨fun part used => ?_, ?_⟩
  · rcases parts used with rfl | rfl | rfl <;> trivial
  · intro op left right used l r ranLeft _ hides
    obtain ⟨t, _, rfl, _⟩ := hides
    rcases parts used with same | same | same
    · obtain ⟨_, rfl, _⟩ := Expr.binary.inj same
      cases ranLeft
    · cases same
    · cases same

/-- A text that is no numeral hides the error on the right of a sum, but not in an array formula. -/
theorem evaluate_inMode_hidden
    : let ctx : Context := {}
      let e : Expr := .binary (.arithmetic .add) (.text "abc") (.error .div0)
      (∀ part, ctx.Uses e part → part.IsSingle)
        ∧ (ctx.inMode true).evaluate e = .ok (.error .div0)
        ∧ (ctx.inMode false).evaluate e = .ok (.error .value) := by
  intro ctx e
  have noNames (n : String) : ¬e.Contains (.name n) := by
    rw [Expr.contains_binary_leaves rfl rfl]
    simp
  refine ⟨fun part used => ?_, ?_, ?_⟩
  · rcases (Expr.contains_binary_leaves rfl rfl).mp (contains_of_uses noNames used)
      with rfl | rfl | rfl <;> trivial
  · have lifted : (ctx.inMode true).evaluate e = (Broadcast.lift₂ ctx.here (.text "abc")
        (.error .div0) (BinaryOperator.evaluate (.arithmetic .add) ctx.here)).mapError .operation :=
      rfl
    rw [lifted, Broadcast.lift₂_of_not_isArea rfl rfl (by decide) (by decide), Value.resolve,
      Value.resolve]
    · rfl
    all_goals simp
  · have noNumeral : Number.parse? "abc" = none := by rfl
    have direct : (ctx.inMode false).evaluate e = .ok (.ofExcept
        ((Arithmetic.add.evaluateNumber ctx.here (.text "abc") (.error .div0)).map .number)) :=
      rfl
    have failed : (Value.text "abc").toNumber = .error .value := by
      rw [Value.toNumber, noNumeral]
    rw [direct, Arithmetic.evaluateNumber, Value.resolveNumber, Value.resolve]
    · change Except.ok (Value.ofExcept (Except.map _ ((Value.text "abc").toNumber >>= _))) = _
      rw [failed]
      rfl
    all_goals simp

end Context

end Spreadsheet
