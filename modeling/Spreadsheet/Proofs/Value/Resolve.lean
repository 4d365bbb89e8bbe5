import Spreadsheet.Evaluation.Evaluate
import Spreadsheet.Proofs.Value.Sound

/-! What is seen of a value from a cell is seen of itself from anywhere, and operators look at
their operands only through what is seen of them.
-/

namespace Spreadsheet

namespace Value

variable {here there : Position} {value w : Value}

theorem resolve_area (a : Area Value) (here : Position)
    : (area a).resolve here = (a.intersect? here).elim (.error .value) (·.resolve here) := by
  rw [resolve]
  split
  · next found => rw [found, Option.elim_some]
  · next found => rw [found, Option.elim_none]

/-- Scalars are seen from everywhere. -/
theorem resolve_of_isScalar (scalar : value.isScalar) (noError : value.isError = false)
    : value.resolve here = .ok value := by
  cases value with
  | area a => cases scalar
  | union areas => cases scalar
  | error e => cases noError
  | _ => simp [resolve]

theorem isScalar_ofExcept {x : Except CellError Value} (h : ∀ value, x = .ok value → value.isScalar)
    : (ofExcept x).isScalar := by
  cases x with
  | error e => rfl
  | ok value => exact h value rfl

/-- What is seen of a value is a scalar and no error, by induction on the value. -/
theorem isScalar_of_resolve (seen : value.resolve here = .ok w)
    : w.isScalar ∧ w.isError = false := by
  induction value using resolve.induct here with
  | case1 e => simp [resolve] at seen
  | case2 areas => simp [resolve] at seen
  | case3 a value found ih =>
    rw [resolve_area, found] at seen
    exact ih seen
  | case4 a found =>
    rw [resolve_area, found] at seen
    cases seen
  | case5 value noError noUnion noArea =>
    have scalar : value.isScalar ∧ value.isError = false := by
      cases value with
      | area a => exact absurd rfl (noArea a)
      | union areas => exact absurd rfl (noUnion areas)
      | error e => exact absurd rfl (noError e)
      | _ => exact ⟨rfl, rfl⟩
    rw [resolve_of_isScalar scalar.1 scalar.2] at seen
    cases seen
    exact scalar

theorem resolve_of_resolve (seen : value.resolve here = .ok w) : w.resolve there = .ok w :=
  resolve_of_isScalar (isScalar_of_resolve seen).1 (isScalar_of_resolve seen).2

/-- What is seen of a value, an error included, is seen of itself. -/
theorem resolve_ofExcept_resolve
    : (ofExcept (value.resolve here)).resolve there = value.resolve here := by
  cases seen : value.resolve here with
  | error e => rw [ofExcept, resolve]
  | ok w => exact resolve_of_resolve seen

end Value

section Operators

variable {here there : Position} {left left' right right' operand operand' : Value}

theorem UnaryOperator.evaluate_congr (op : UnaryOperator)
    (same : operand.resolve here = operand'.resolve there)
    : op.evaluate here operand = op.evaluate there operand' := by
  rw [evaluate, evaluate, same]

theorem Arithmetic.evaluate_congr (op : Arithmetic)
    (hl : left.resolve here = left'.resolve there) (hr : right.resolve here = right'.resolve there)
    : op.evaluate here left right = op.evaluate there left' right' := by
  simp only [evaluate, evaluateNumber, Value.resolveNumber, hl, hr]

/-- Operators look at their operands only through what is seen of them. -/
theorem BinaryOperator.evaluate_congr (op : BinaryOperator)
    (hl : left.resolve here = left'.resolve there) (hr : right.resolve here = right'.resolve there)
    : op.evaluate here left right = op.evaluate there left' right' := by
  cases op with
  | arithmetic op => exact congrArg Except.ok (op.evaluate_congr hl hr)
  | comparison op =>
    change op.evaluate here left right = op.evaluate there left' right'
    simp only [Comparison.evaluate, hl, hr]
  | concat =>
    change Except.ok (Value.concat here left right) = .ok (Value.concat there left' right')
    simp only [Value.concat, Value.resolveText, hl, hr]

-- Errors in operands

/-- An error in the left operand is the result. -/
theorem BinaryOperator.evaluate_of_left_error (op : BinaryOperator) {e : CellError}
    (seen : left.resolve here = .error e)
    : op.evaluate here left right = .ok (.error e) := by
  cases op with
  | arithmetic op =>
    change Except.ok (op.evaluate here left right) = _
    rw [Arithmetic.evaluate, Arithmetic.evaluateNumber, Value.resolveNumber, seen]
    rfl
  | comparison op =>
    change op.evaluate here left right = _
    rw [Comparison.evaluate, seen]
  | concat =>
    change Except.ok (Value.concat here left right) = _
    rw [Value.concat, Value.resolveText, seen]
    rfl

/-- A text on the left that is no numeral is an error of its own to an arithmetic operator, which
hides another error on the right.
-/
def Value.Hides (left right : Value) : Prop :=
  ∃ t e, left = .text t ∧ Number.parse? t = none ∧ right = .error e ∧ e ≠ .value

theorem Value.exists_toText (scalar : left.isScalar) (noError : left.isError = false)
    : ∃ t, left.toText = .ok t := by
  cases left with
  | area a => cases scalar
  | union areas => cases scalar
  | error e => cases noError
  | _ => exact ⟨_, rfl⟩

/-- A scalar stands for a number unless it is a text that is no numeral. -/
theorem Value.toNumber_cases (scalar : left.isScalar) (noError : left.isError = false)
    : (∃ x, left.toNumber = .ok x)
      ∨ left.toNumber = .error .value ∧ ∃ t, left = .text t ∧ Number.parse? t = none := by
  cases left with
  | area a => cases scalar
  | union areas => cases scalar
  | error e => cases noError
  | text t =>
    cases parsed : Number.parse? t with
    | some x => exact .inl ⟨x, by rw [toNumber, parsed]⟩
    | none => exact .inr ⟨by rw [toNumber, parsed], t, rfl, parsed⟩
  | _ => exact .inl ⟨_, rfl⟩

/-- An error in the right operand is the result as well, unless it is hidden. -/
theorem BinaryOperator.evaluate_of_right_error (op : BinaryOperator) {x : Value} {e : CellError}
    (seenLeft : left.resolve here = .ok x) (seenRight : right.resolve here = .error e)
    (shown : ∀ a, op = .arithmetic a → ¬x.Hides (.error e))
    : op.evaluate here left right = .ok (.error e) := by
  obtain ⟨scalar, noError⟩ := Value.isScalar_of_resolve seenLeft
  cases op with
  | arithmetic op =>
    change Except.ok (op.evaluate here left right) = _
    rw [Arithmetic.evaluate, Arithmetic.evaluateNumber, Value.resolveNumber, Value.resolveNumber,
      seenLeft, seenRight]
    rcases Value.toNumber_cases scalar noError with ⟨n, number⟩ | ⟨failed, t, same, noNumeral⟩
    · change Except.ok (Value.ofExcept (Except.map _ (x.toNumber >>= _))) = _
      rw [number]
      rfl
    · have value : e = .value := by
        refine Classical.byContradiction fun other => ?_
        exact shown op rfl ⟨t, e, same, noNumeral, rfl, other⟩
      change Except.ok (Value.ofExcept (Except.map _ (x.toNumber >>= _))) = _
      rw [failed, value]
      rfl
  | comparison op =>
    change op.evaluate here left right = _
    rw [Comparison.evaluate, seenLeft, seenRight]
  | concat =>
    obtain ⟨t, text⟩ := Value.exists_toText scalar noError
    change Except.ok (Value.concat here left right) = _
    rw [Value.concat, Value.resolveText, Value.resolveText, seenLeft, seenRight]
    change Except.ok (Value.ofExcept (x.toText >>= _)) = _
    rw [text]
    rfl

-- What operators give

theorem BinaryOperator.isScalar_of_evaluate (op : BinaryOperator) {value : Value}
    (evaluated : op.evaluate here left right = .ok value)
    : value.isScalar := by
  cases op with
  | arithmetic op =>
    cases evaluated
    exact op.isPlain_evaluate.isScalar
  | comparison op =>
    change op.evaluate here left right = .ok value at evaluated
    unfold Comparison.evaluate at evaluated
    split at evaluated
    · cases evaluated
      rfl
    · cases evaluated
      rfl
    · obtain ⟨order, _, rfl⟩ := except_map_eq_ok.mp evaluated
      rfl
  | concat =>
    cases evaluated
    exact Value.isPlain_concat.isScalar

theorem UnaryOperator.isScalar_evaluate (op : UnaryOperator)
    : (op.evaluate here operand).isScalar := by
  refine Value.isScalar_ofExcept fun value read => ?_
  obtain ⟨x, seen, read⟩ := except_bind_eq_ok.mp read
  cases op with
  | plus =>
    cases read
    exact (Value.isScalar_of_resolve seen).1
  | negate =>
    obtain ⟨_, _, rfl⟩ := except_map_eq_ok.mp read
    rfl
  | percent =>
    obtain ⟨_, _, rfl⟩ := except_map_eq_ok.mp read
    rfl

end Operators

end Spreadsheet
