import Mathlib.Logic.Relation
import Spreadsheet.Formula.Expr

/-! The parts of a formula, and induction over them. Lists of arguments and rows of arrays are
looked through, so that one case per constructor is enough.
-/

namespace Spreadsheet.Expr

/-- The formulas right below the outermost operator. -/
def children : Expr → List Expr
  | binary _ left right => [left, right]
  | union left right => [left, right]
  | unary _ operand => [operand]
  | call _ arguments => arguments
  | array rows => rows.flatten
  | _ => []

theorem sizeOf_lt_of_mem_children {e child : Expr} (h : child ∈ e.children)
    : sizeOf child < sizeOf e := by
  cases e with
  | binary op left right =>
    simp only [children, List.mem_cons, List.not_mem_nil, or_false] at h
    rcases h with rfl | rfl
    all_goals
      simp only [binary.sizeOf_spec]
      omega
  | union left right =>
    simp only [children, List.mem_cons, List.not_mem_nil, or_false] at h
    rcases h with rfl | rfl
    all_goals
      simp only [union.sizeOf_spec]
      omega
  | unary op operand =>
    obtain rfl := List.mem_singleton.mp h
    simp only [unary.sizeOf_spec]
    omega
  | call f arguments =>
    have := List.sizeOf_lt_of_mem (show child ∈ arguments from h)
    simp only [call.sizeOf_spec]
    omega
  | array rows =>
    obtain ⟨row, inRows, inRow⟩ := List.mem_flatten.mp h
    have := List.sizeOf_lt_of_mem inRows
    have := List.sizeOf_lt_of_mem inRow
    simp only [array.sizeOf_spec]
    omega
  | _ => cases h

/-- Whatever holds of a formula once it holds of the formulas right below it holds of all. -/
theorem induction_children {P : Expr → Prop}
    (step : ∀ e, (∀ child ∈ e.children, P child) → P e) (e : Expr)
    : P e := by
  induction size : sizeOf e using Nat.strongRecOn generalizing e with
  | ind size ih =>
    refine step e fun child below => ?_
    exact ih (sizeOf child) (size ▸ sizeOf_lt_of_mem_children below) child rfl

/-- One formula is part of another one, or the whole of it. -/
def Contains : Expr → Expr → Prop :=
  Relation.ReflTransGen fun e child => child ∈ e.children

theorem contains_self (e : Expr) : e.Contains e :=
  .refl

theorem contains_child {e child part : Expr} (h : child ∈ e.children) (below : child.Contains part)
    : e.Contains part :=
  .head h below

/-- A part is the whole, or a part of what is right below. -/
theorem contains_iff {e part : Expr}
    : e.Contains part ↔ part = e ∨ ∃ child ∈ e.children, child.Contains part := by
  constructor
  · intro h
    rcases Relation.ReflTransGen.cases_head h with same | ⟨child, below, within⟩
    · exact .inl same.symm
    · exact .inr ⟨child, below, within⟩
  · rintro (rfl | ⟨child, below, within⟩)
    · exact contains_self _
    · exact contains_child below within

/-- A property of all parts is one of the whole and of the parts of what is right below. -/
theorem forall_contains_iff {P : Expr → Prop} {e : Expr}
    : (∀ part, e.Contains part → P part)
      ↔ P e ∧ ∀ child ∈ e.children, ∀ part, child.Contains part → P part := by
  constructor
  · intro h
    exact ⟨h e e.contains_self, fun child below part within => h part (contains_child below within)⟩
  · intro h part within
    rcases Relation.ReflTransGen.cases_head within with rfl | ⟨child, below, within⟩
    · exact h.1
    · exact h.2 child below part within

/-- A formula with nothing below it is all there is to look at. -/
theorem forall_contains_of_leaf {P : Expr → Prop} {e : Expr} (leaf : e.children = []) (h : P e)
    : ∀ part, e.Contains part → P part :=
  forall_contains_iff.mpr ⟨h, by simp [leaf]⟩

end Spreadsheet.Expr
