import Spreadsheet.Proofs.Number.Order
import Spreadsheet.Proofs.Value.Area
import Spreadsheet.Value.Operator

/-! Sound values hold no NaN, and their areas hold scalars only. Operators give sound values, and
no two scalars that are compared lack an order.
-/

namespace Spreadsheet

/-- The greatest width of an area that still fits to the right of every cell of the grid. -/
def widestArea : Nat := columnLimit - maxColumns

/-- Areas that are not too high or wide have room at every cell of the grid. -/
theorem Position.InGrid.fits {here : Position} {height width : Nat} (inGrid : here.InGrid)
    (tall : 0 < height) (wide : 0 < width) (short : height < 0x80000000)
    (narrow : width ≤ widestArea)
    : Area.Fits here height width := by
  obtain ⟨row, col⟩ := inGrid
  simp only [widestArea, maxRows, maxColumns, columnLimit] at row col narrow
  refine ⟨tall, wide, ?_, ?_⟩
  · simp only [rowLimit]
    omega
  · simp only [columnLimit]
    omega

namespace Value

/-- A scalar other than NaN. -/
def IsPlain : Value → Prop
  | number value => value.isNaN = false
  | area _ => False
  | union _ => False
  | _ => True

end Value

/-- An area of scalars other than NaN, no wider than what fits. -/
structure Area.Sound (a : Area Value) : Prop where
  tall : 0 < a.height
  wide : 0 < a.width
  narrow : a.width ≤ widestArea
  cells : ∀ value ∈ a.cells, value.IsPlain

namespace Value

/-- A scalar other than NaN, or areas of such scalars. -/
def Sound : Value → Prop
  | area a => a.Sound
  | union areas => ∀ a ∈ areas, a.Sound
  | value => value.IsPlain

theorem IsPlain.sound {value : Value} (h : value.IsPlain) : value.Sound := by
  cases value with
  | area a => cases h
  | union areas => cases h
  | _ => exact h

theorem IsPlain.isScalar {value : Value} (h : value.IsPlain) : value.isScalar := by
  cases value with
  | area a => cases h
  | union areas => cases h
  | _ => rfl

theorem Sound.isPlain {value : Value} (h : value.Sound) (scalar : value.isScalar)
    : value.IsPlain := by
  cases value with
  | area a => cases scalar
  | union areas => cases scalar
  | _ => exact h

/-- What can be seen of a value once errors have been sorted out. -/
def IsOperand (value : Value) : Prop :=
  value.IsPlain ∧ value.isError = false

theorem isPlain_ofExcept {x : Except CellError Value} (h : ∀ value, x = .ok value → value.IsPlain)
    : (ofExcept x).IsPlain := by
  cases x with
  | error e => trivial
  | ok value => exact h value rfl

theorem isPlain_ofContent (content : Content) : (ofContent content).IsPlain := by
  unfold ofContent
  split
  · split
    · trivial
    · next value _ number => exact Bool.eq_false_iff.mpr number
  all_goals trivial

end Value

namespace Area

variable {a : Area Value} {here : Position}

theorem Sound.stored? {row col : Nat} (h : a.Sound)
    : ((a.stored? row col).getD .blank).IsPlain := by
  rcases a.getD_stored?_cases row col with blank | mem
  · rw [blank]
    trivial
  · exact h.cells _ mem

theorem Sound.absolute? {p : Position} {value : Value} (h : a.Sound)
    (found : a.absolute? p = some value)
    : value.IsPlain := by
  rcases absolute?_cases found with rfl | mem
  · trivial
  · exact h.cells value mem

/-- Rows of scalars make up a sound area, wherever in the grid it is to stand. -/
theorem exists_ofRows {rows : List (List Value)} {width : Nat} (inGrid : here.InGrid)
    (nonempty : rows ≠ []) (few : rows.length < 0x80000000) (wide : 0 < width)
    (narrow : width ≤ widestArea) (even : ∀ row ∈ rows, row.length = width)
    (plain : ∀ row ∈ rows, ∀ value ∈ row, value.IsPlain)
    : ∃ area, ofRows here rows = .ok area ∧ area.Sound := by
  have fits : Fits here rows.length width :=
    inGrid.fits (List.length_pos_iff.mpr nonempty) wide few narrow
  refine ⟨_, ofRows_eq_ok.mpr ⟨width, even, ?_, ?_, fits, rfl⟩, fits.tall, wide, ?_, ?_⟩
  · simp only [rowLimit]
    omega
  · simp only [widestArea, maxColumns, columnLimit] at narrow ⊢
    omega
  · simpa [dense, widestArea, columnLimit, maxColumns] using narrow
  · intro value mem
    obtain ⟨row, inRows, inRow⟩ := List.mem_flatten.mp (by simpa [dense] using mem)
    exact plain row inRows value inRow

end Area

namespace Value

variable {here : Position} {value left right : Value}

-- What is seen of a value, and how it compares

theorem resolve_of_isPlain {w : Value} (h : value.IsPlain) (seen : value.resolve here = .ok w)
    : w.IsOperand := by
  cases value with
  | area a => cases h
  | union areas => cases h
  | error e =>
    rw [resolve] at seen
    cases seen
  | _ =>
    rw [resolve] at seen
    · cases seen
      exact ⟨h, rfl⟩
    all_goals simp

/-- Whatever is seen of a sound value is a scalar and no error. -/
theorem Sound.resolve {w : Value} (h : value.Sound) (seen : value.resolve here = .ok w)
    : w.IsOperand := by
  cases value with
  | area a =>
    rw [Value.resolve] at seen
    split at seen
    · next shown found => exact resolve_of_isPlain (Area.Sound.absolute? h found) seen
    · cases seen
  | union areas =>
    rw [Value.resolve] at seen
    cases seen
  | _ => exact resolve_of_isPlain (Sound.isPlain h rfl) seen

theorem IsPlain.toNumber {x : Float} (h : value.IsPlain) (read : value.toNumber = .ok x)
    : x.isNaN = false := by
  cases value with
  | number y =>
    cases read
    exact h
  | boolean b => cases b <;> cases read <;> decide
  | blank =>
    cases read
    decide
  | missing =>
    cases read
    decide
  | text t =>
    unfold Value.toNumber at read
    dsimp only at read
    split at read
    · next y parsed =>
      cases read
      exact Number.not_isNaN_parse? parsed
    · cases read
  | _ => cases read

theorem orderNumbers_eq_ok {x y : Float} (left : x.isNaN = false) (right : y.isNaN = false)
    : ∃ order, orderNumbers x y = .ok order := by
  unfold orderNumbers
  split
  · exact ⟨_, rfl⟩
  · next notLess =>
    split
    · exact ⟨_, rfl⟩
    · next notGreater =>
      rcases Number.lt_or_lt_or_beq left right with less | greater | same
      · exact absurd less notLess
      · exact absurd greater notGreater
      · rw [if_pos same]
        exact ⟨_, rfl⟩

theorem orderBlank_eq_ok (h : value.IsOperand) : ∃ order, orderBlank value = .ok order := by
  obtain ⟨plain, noError⟩ := h
  cases value with
  | number x => exact orderNumbers_eq_ok (by decide) plain
  | error e => cases noError
  | area a => cases plain
  | union areas => cases plain
  | _ => exact ⟨_, rfl⟩

/-- Beside blanks the operands are texts, truth values and numbers other than NaN. -/
theorem IsOperand.isOrdered (h : value.IsOperand) (notBlank : value ≠ .blank)
    (notMissing : value ≠ .missing)
    : value.isOrdered := by
  obtain ⟨plain, noError⟩ := h
  cases value with
  | number x =>
    have number : x.isNaN = false := plain
    simp only [Value.isOrdered, number, Bool.not_false]
  | error e => cases noError
  | area a => cases plain
  | union areas => cases plain
  | blank => exact absurd rfl notBlank
  | missing => exact absurd rfl notMissing
  | _ => rfl

/-- Any two scalars that are no errors have an order. -/
theorem order_eq_ok (hl : left.IsOperand) (hr : right.IsOperand)
    : ∃ order, left.order right = .ok order := by
  have swapped {value : Value} (h : value.IsOperand)
      : ∃ order, (orderBlank value).map Ordering.swap = .ok order := by
    obtain ⟨order, read⟩ := orderBlank_eq_ok h
    exact ⟨order.swap, by rw [read]; rfl⟩
  unfold order
  split
  · exact orderBlank_eq_ok hr
  · exact orderBlank_eq_ok hr
  · exact swapped hl
  · exact swapped hl
  · exact ⟨_, rfl⟩
  · exact orderNumbers_eq_ok hl.1 hr.1
  · exact ⟨_, rfl⟩
  · rw [if_pos]
    · exact ⟨_, rfl⟩
    · rw [hl.isOrdered, hr.isOrdered]
      · rfl
      all_goals assumption

end Value

section Operators

variable {here : Position} {value left right : Value}

-- Operators give scalars

theorem Arithmetic.isPlain_evaluate (op : Arithmetic) : (op.evaluate here left right).IsPlain := by
  rw [Arithmetic.evaluate]
  refine Value.isPlain_ofExcept fun value evaluated => ?_
  obtain ⟨x, read, rfl⟩ := except_map_eq_ok.mp evaluated
  rw [Arithmetic.evaluateNumber] at read
  obtain ⟨_, _, read⟩ := except_bind_eq_ok.mp read
  obtain ⟨_, _, read⟩ := except_bind_eq_ok.mp read
  obtain ⟨result, _, read⟩ := except_bind_eq_ok.mp read
  split at read
  · cases read
  · next finite =>
    split at read
    · cases read
      change (0 : Float).isNaN = false
      decide
    · cases read
      exact Number.not_isNaN_of_isFinite (by simpa using finite)

theorem Comparison.exists_evaluate (op : Comparison) (hl : left.Sound) (hr : right.Sound)
    : ∃ value, op.evaluate here left right = .ok value ∧ value.IsPlain := by
  unfold Comparison.evaluate
  cases seenLeft : left.resolve here with
  | error e => exact ⟨.error e, rfl, trivial⟩
  | ok x =>
    cases seenRight : right.resolve here with
    | error e => exact ⟨.error e, rfl, trivial⟩
    | ok y =>
      obtain ⟨order, read⟩ := Value.order_eq_ok (hl.resolve seenLeft) (hr.resolve seenRight)
      exact ⟨.boolean (op.test order), by simp [read, Except.map], trivial⟩

theorem Value.isPlain_concat : (Value.concat here left right).IsPlain := by
  refine Value.isPlain_ofExcept fun value read => ?_
  obtain ⟨x, _, read⟩ := except_bind_eq_ok.mp read
  obtain ⟨y, _, read⟩ := except_bind_eq_ok.mp read
  cases read
  trivial

theorem UnaryOperator.isPlain_evaluate (op : UnaryOperator) (h : value.Sound)
    : (op.evaluate here value).IsPlain := by
  refine Value.isPlain_ofExcept fun result read => ?_
  obtain ⟨seen, resolved, read⟩ := except_bind_eq_ok.mp read
  have plain : seen.IsPlain := (h.resolve resolved).1
  cases op with
  | plus =>
    cases read
    exact plain
  | negate =>
    obtain ⟨x, number, rfl⟩ := except_map_eq_ok.mp read
    exact Number.not_isNaN_neg (plain.toNumber number)
  | percent =>
    obtain ⟨x, number, rfl⟩ := except_map_eq_ok.mp read
    exact Number.not_isNaN_div_hundred (plain.toNumber number)

end Operators

end Spreadsheet
