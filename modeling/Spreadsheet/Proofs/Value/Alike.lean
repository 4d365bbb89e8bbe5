import Mathlib.Data.List.Forall2
import Spreadsheet.Proofs.Value.Resolve

/-! Values that look alike. What is stored of an area may be more or less, as long as the rest is
blank: nothing that formulas do with a value tells the difference.
-/

namespace Spreadsheet

/-- Ranges of numbers of which only a part counts. -/
theorem flatMap_range'_of_outside {α : Type} {f : Nat → List α} {start size start' size' : Nat}
    (first : start ≤ start') (last : start' + size' ≤ start + size)
    (outside : ∀ i, start ≤ i → i < start + size → ¬(start' ≤ i ∧ i < start' + size') → f i = [])
    : (List.range' start size).flatMap f = (List.range' start' size').flatMap f := by
  obtain ⟨before, rfl⟩ := Nat.exists_eq_add_of_le first
  obtain ⟨behind, rfl⟩ : ∃ behind, size = before + (size' + behind) :=
    ⟨size - before - size', by omega⟩
  have noneBefore : (List.range' start before).flatMap f = [] := by
    refine List.flatMap_eq_nil_iff.mpr fun i mem => ?_
    have := List.mem_range'_1.mp mem
    exact outside i (by omega) (by omega) (by omega)
  have noneBehind : (List.range' (start + before + size') behind).flatMap f = [] := by
    refine List.flatMap_eq_nil_iff.mpr fun i mem => ?_
    have := List.mem_range'_1.mp mem
    exact outside i (by omega) (by omega) (by omega)
  rw [← List.range'_append_1, ← List.range'_append_1, List.flatMap_append, List.flatMap_append,
    noneBefore, noneBehind, List.nil_append, List.append_nil]

/-- The value is not blank. -/
def Value.isData : Value → Bool
  | blank => false
  | _ => true

/-- The values in an area that are not blank, row by row. -/
def Area.data (a : Area Value) : List Value :=
  a.cells.toList.filter Value.isData

/-- Areas of one place and extent that show the same value at every cell. -/
structure Area.Alike (a b : Area Value) : Prop where
  origin : a.origin = b.origin
  height : a.height = b.height
  width : a.width = b.width
  relative : ∀ row col, a.relative? row col = b.relative? row col
  data : a.data = b.data

/-- Values that show the same wherever formulas look at them. -/
inductive Value.Alike : Value → Value → Prop
  | same (value : Value) : Alike value value
  | area {a b : Area Value} (h : a.Alike b) : Alike (.area a) (.area b)
  | union {as bs : List (Area Value)} (h : List.Forall₂ Area.Alike as bs)
    : Alike (.union as) (.union bs)

namespace Area.Alike

variable {a b : Area Value}

theorem refl (a : Area Value) : a.Alike a :=
  ⟨rfl, rfl, rfl, fun _ _ => rfl, rfl⟩

theorem cellCount (h : a.Alike b) : a.cellCount = b.cellCount := by
  rw [Area.cellCount, Area.cellCount, h.height, h.width]

theorem absolute? (h : a.Alike b) (p : Position) : a.absolute? p = b.absolute? p := by
  rw [Area.absolute?, containsRow, containsCol, lastRow, lastCol, h.origin, h.height, h.width,
    h.relative]
  rfl

theorem intersect? (h : a.Alike b) (here : Position) : a.intersect? here = b.intersect? here := by
  rw [Area.intersect?, isRow, isColumn, h.origin, h.height, h.width, h.absolute?]
  rfl

/-- At an index below the number of cells, both areas have the same value. -/
theorem valueAt (h : a.Alike b) {index : Nat} (inside : index < a.cellCount)
    : a.valueAt index = b.valueAt index := by
  have inRow : index / a.width < a.height := Nat.div_lt_of_lt_mul (Nat.mul_comm _ _ ▸ inside)
  have inCol : index % a.width < a.width := by
    refine Nat.mod_lt _ (Nat.pos_of_ne_zero fun zero => ?_)
    rw [Area.cellCount, zero, Nat.mul_zero] at inside
    cases inside
  have shown := h.relative (index / a.width) (index % a.width)
  rw [relative?_of_lt inRow inCol, relative?_of_lt (h.height ▸ inRow) (h.width ▸ inCol)] at shown
  rw [Area.valueAt, Area.valueAt, ← h.width]
  exact Option.some.inj shown

theorem entries (h : a.Alike b) : a.entries = b.entries := by
  rw [Area.entries, Area.entries, firstEntries, firstEntries, ← h.cellCount]
  refine List.map_congr_left fun index mem => ?_
  have inside : index < a.cellCount := by simpa using mem
  rw [positionAt, positionAt, h.origin, h.width, h.valueAt inside]

end Area.Alike

namespace Value.Alike

variable {v w l l' r r' : Value} {here : Position}

theorem isScalar (h : Alike v w) : v.isScalar = w.isScalar := by
  cases h with
  | same => rfl
  | area => rfl
  | union => rfl

/-- Scalars that look alike are equal. -/
theorem eq_of_isScalar (h : Alike v w) (scalar : v.isScalar) : v = w := by
  cases h with
  | same => rfl
  | area => cases scalar
  | union => cases scalar

theorem resolve (h : Alike v w) : v.resolve here = w.resolve here := by
  cases h with
  | same => rfl
  | area h => rw [resolve_area, resolve_area, h.intersect?]
  | union h => rw [Value.resolve, Value.resolve]

theorem extent (h : Alike v w) : v.extent here = w.extent here := by
  cases h with
  | same => rfl
  | area h => rw [Value.extent, Value.extent, h.origin, h.height, h.width]
  | union h => rfl

theorem seenAt (h : Alike v w) (row col : Nat) : v.seenAt here row col = w.seenAt here row col := by
  rw [Value.seenAt, Value.seenAt, h.extent, h.resolve]

section Lift

variable {m : Type → Type} [Monad m] [MonadExceptOf OperationError m]

theorem lift₂ (hl : Alike l l') (hr : Alike r r') (f : Value → Value → m Value)
    : Broadcast.lift₂ here l r f = Broadcast.lift₂ here l' r' f := by
  simp only [Broadcast.lift₂, hl.extent, hr.extent, hl.seenAt, hr.seenAt]

theorem lift₁ (h : Alike v w) (f : Value → m Value)
    : Broadcast.lift₁ here v f = Broadcast.lift₁ here w f := by
  simp only [Broadcast.lift₁, h.extent, h.seenAt]

end Lift

end Value.Alike

namespace Context

variable {ctx : Context} {v w l l' r r' : Value}

/-- Operators do not tell operands apart that look alike. -/
theorem binary_alike (op : BinaryOperator) (hl : l.Alike l') (hr : r.Alike r')
    : ctx.binary op l r = ctx.binary op l' r' := by
  rw [binary, binary, hl.lift₂ hr, op.evaluate_congr hl.resolve hr.resolve]

theorem unary_alike (op : UnaryOperator) (h : v.Alike w) : ctx.unary op v = ctx.unary op w := by
  rw [unary, unary, h.lift₁, op.evaluate_congr h.resolve]

end Context

/-- Values that look alike are the same as elements of an array constant. -/
theorem Expr.element_alike {v w : Value} (h : v.Alike w) : element v = element w := by
  unfold element
  rw [← h.isScalar]
  split
  · next scalar => exact h.eq_of_isScalar scalar
  · rfl

end Spreadsheet
