import Spreadsheet.Evaluation.Evaluate
import Spreadsheet.Proofs.Value.Area

/-! Values that were given. An argument that was left out has a value of its own; no cell holds it,
and operators make it of nothing else.
-/

namespace Spreadsheet

namespace Value

/-- A cell can hold the value, which is a scalar and no argument that was left out. -/
def FitsCell : Value → Prop
  | missing => False
  | area _ => False
  | union _ => False
  | _ => True

end Value

/-- All stored cells of an area hold what a cell can hold. -/
def Area.Filled (a : Area Value) : Prop :=
  ∀ value ∈ a.cells, value.FitsCell

/-- The value is no argument that was left out, and no area in it has one as a cell. -/
def Value.IsGiven : Value → Prop
  | .area a => a.Filled
  | .union areas => ∀ a ∈ areas, a.Filled
  | value => value.FitsCell

namespace Value

variable {value : Value}

theorem FitsCell.isGiven (h : value.FitsCell) : value.IsGiven := by
  cases value with
  | area a => cases h
  | union areas => cases h
  | _ => exact h

theorem IsGiven.fitsCell (h : value.IsGiven) (scalar : value.isScalar) : value.FitsCell := by
  cases value with
  | area a => cases scalar
  | union areas => cases scalar
  | _ => exact h

theorem fitsCell_ofExcept {x : Except CellError Value} (h : ∀ value, x = .ok value → value.FitsCell)
    : (ofExcept x).FitsCell := by
  cases x with
  | error e => trivial
  | ok value => exact h value rfl

theorem fitsCell_ofExcept_map {α : Type} {x : Except CellError α} {f : α → Value}
    (h : ∀ a, (f a).FitsCell)
    : (ofExcept (x.map f)).FitsCell := by
  cases x with
  | error e => trivial
  | ok a => exact h a

/-- An error on the way to a result fits a cell as well. -/
theorem fitsCell_ofExcept_bind {α : Type} {x : Except CellError α}
    {f : α → Except CellError Value} (h : ∀ a, (ofExcept (f a)).FitsCell)
    : (ofExcept (x >>= f)).FitsCell := by
  cases x with
  | error e => trivial
  | ok a => exact h a

theorem fitsCell_ofNumber (x : Except CellError Float) : (ofNumber x).FitsCell := by
  cases x with
  | error e => trivial
  | ok x =>
    unfold ofNumber
    dsimp only
    split <;> trivial

theorem fitsCell_ofContent (content : Content) : (ofContent content).FitsCell := by
  unfold ofContent
  split
  · split <;> trivial
  all_goals trivial

end Value

-- What areas show

namespace Area

variable {a : Area Value} {origin : Position} {rows : List (List Value)}

theorem Filled.stored? (h : a.Filled) (row col : Nat)
    : ((a.stored? row col).getD .blank).FitsCell := by
  rcases a.getD_stored?_cases row col with blank | mem
  · rw [blank]
    trivial
  · exact h _ mem

theorem Filled.absolute? {p : Position} {value : Value} (h : a.Filled)
    (found : a.absolute? p = some value)
    : value.FitsCell := by
  rcases absolute?_cases found with rfl | mem
  · trivial
  · exact h value mem

theorem filled_of_ofRows (built : ofRows origin rows = .ok a)
    (each : ∀ row ∈ rows, ∀ value ∈ row, value.FitsCell)
    : a.Filled := by
  obtain ⟨width, _, _, _, _, rfl⟩ := ofRows_eq_ok.mp built
  intro value mem
  obtain ⟨row, inRows, inRow⟩ := List.mem_flatten.mp (List.mem_toArray.mp mem)
  exact each row inRows value inRow

end Area

section Operators

variable {here : Position} {value left right result : Value} {row col : Nat}

namespace Value

theorem FitsCell.resolve (h : value.FitsCell) (seen : value.resolve here = .ok result)
    : result.FitsCell := by
  cases value with
  | missing => cases h
  | area a => cases h
  | union areas => cases h
  | error e =>
    rw [Value.resolve] at seen
    cases seen
  | _ =>
    rw [Value.resolve] at seen
    · cases seen
      trivial
    all_goals simp

/-- Whatever is seen of a value that was given was given itself. -/
theorem IsGiven.resolve (h : value.IsGiven) (seen : value.resolve here = .ok result)
    : result.FitsCell := by
  cases value with
  | area a =>
    rw [Value.resolve] at seen
    split at seen
    · next shown found => exact (Area.Filled.absolute? h found).resolve seen
    · cases seen
  | union areas =>
    rw [Value.resolve] at seen
    cases seen
  | _ => exact (h.fitsCell rfl).resolve seen

theorem IsGiven.seenAt (h : value.IsGiven) (seen : value.seenAt here row col = .ok result)
    : result.FitsCell := by
  unfold Value.seenAt at seen
  dsimp only at seen
  split at seen
  · cases seen
  · exact h.resolve seen

end Value

/-- Operators make something of two operands even if these were left out. -/
theorem BinaryOperator.fitsCell_of_evaluate {op : BinaryOperator}
    (evaluated : op.evaluate here left right = .ok result)
    : result.FitsCell := by
  cases op with
  | arithmetic op =>
    cases evaluated
    exact Value.fitsCell_ofExcept_map fun _ => trivial
  | comparison op =>
    change op.evaluate here left right = .ok result at evaluated
    unfold Comparison.evaluate at evaluated
    split at evaluated
    · cases evaluated
      trivial
    · cases evaluated
      trivial
    · obtain ⟨order, _, rfl⟩ := except_map_eq_ok.mp evaluated
      trivial
  | concat =>
    cases evaluated
    exact Value.fitsCell_ofExcept_bind fun _ => Value.fitsCell_ofExcept_bind fun _ => trivial

/-- A plus passes on what is seen of its operand. -/
theorem UnaryOperator.fitsCell_evaluate (op : UnaryOperator) (h : value.IsGiven)
    : (op.evaluate here value).FitsCell := by
  refine Value.fitsCell_ofExcept fun result read => ?_
  obtain ⟨seen, resolved, read⟩ := except_bind_eq_ok.mp read
  cases op with
  | plus =>
    cases read
    exact h.resolve resolved
  | negate =>
    obtain ⟨_, _, rfl⟩ := except_map_eq_ok.mp read
    trivial
  | percent =>
    obtain ⟨_, _, rfl⟩ := except_map_eq_ok.mp read
    trivial

/-- Computed cells make a value that was given if each of them fits a cell. -/
theorem Broadcast.isGiven_of_collect {height width : Nat}
    {cell : Nat → Nat → Except OperationError Value}
    (collected : collect here height width cell = .ok result)
    (each : ∀ row col value, cell row col = .ok value → value.FitsCell)
    : result.IsGiven := by
  unfold collect at collected
  split at collected
  · exact (each 0 0 result collected).isGiven
  · split at collected
    · cases collected
      trivial
    · obtain ⟨rows, run, built⟩ := except_bind_eq_ok.mp collected
      split at built
      · next a found =>
        cases built
        refine Area.filled_of_ofRows found
          (forall_of_mapM_eq_ok run fun row _ values computed => ?_).2
        exact (forall_of_mapM_eq_ok computed fun col _ value => each row col value).2
      · cases built

end Operators

namespace Context

variable {ctx : Context} {left right operand argument result : Value}

theorem isGiven_of_binary {op : BinaryOperator} (run : ctx.binary op left right = .ok result)
    : result.IsGiven := by
  unfold binary at run
  split at run
  · refine Broadcast.isGiven_of_collect run fun row col value computed => ?_
    split at computed
    · cases computed
      trivial
    · cases computed
      trivial
    · exact op.fitsCell_of_evaluate computed
  · exact (op.fitsCell_of_evaluate run).isGiven

theorem isGiven_of_unary {op : UnaryOperator} (h : operand.IsGiven)
    (run : ctx.unary op operand = .ok result)
    : result.IsGiven := by
  unfold unary at run
  split at run
  · refine Broadcast.isGiven_of_collect run fun row col value computed => ?_
    cases computed
    exact op.fitsCell_evaluate (Value.fitsCell_ofExcept fun _ seen => h.seenAt seen).isGiven
  · cases run
    exact (op.fitsCell_evaluate h).isGiven

/-- A function of one scalar is applied to every cell, or to what is seen of the argument. -/
theorem isGiven_of_lift {f : Value → Value} (run : ctx.lift argument f = .ok result)
    (each : ∀ value, (f value).FitsCell)
    : result.IsGiven := by
  unfold lift at run
  split at run
  · refine Broadcast.isGiven_of_collect run fun row col value computed => ?_
    cases computed
    exact each _
  · cases run
    exact (each _).isGiven

end Context

end Spreadsheet
