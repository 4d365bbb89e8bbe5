import Spreadsheet.Proofs.Formula.Subformula

/-! Formulas with their unions grouped to the left. A written union shows its members and not how
these were grouped, so this is what can be read back of it.
-/

namespace Spreadsheet.Expr

/-- The formula is a union. -/
def isUnion : Expr → Bool
  | union _ _ => true
  | _ => false

/-- The members of a tree of unions in order; any other formula is its own only member. -/
def unionMembers : Expr → List Expr
  | union left right => left.unionMembers ++ right.unionMembers
  | e => [e]

/-- A formula united with all members of another one, grouped to the left. -/
def uniteLeft (left : Expr) : Expr → Expr
  | union more last => union (uniteLeft left more) last
  | e => union left e

mutual

/-- A formula with every tree of unions in it grouped to the left. -/
def leftUnions : Expr → Expr
  | binary op left right => binary op left.leftUnions right.leftUnions
  | union left right => uniteLeft left.leftUnions right.leftUnions
  | unary op operand => unary op operand.leftUnions
  | call f arguments => call f (leftUnionsList arguments)
  | array rows => array (leftUnionsRows rows)
  | e => e

/-- Each formula of a list with its unions grouped to the left. -/
def leftUnionsList : List Expr → List Expr
  | [] => []
  | e :: rest => e.leftUnions :: leftUnionsList rest

/-- Each formula of some rows with its unions grouped to the left. -/
def leftUnionsRows : List (List Expr) → List (List Expr)
  | [] => []
  | row :: rest => leftUnionsList row :: leftUnionsRows rest

end

attribute [local simp] children leftUnions

/-- No union is the right operand of another one anywhere in a formula. -/
def LeftGrouped (e : Expr) : Prop :=
  ∀ part, e.Contains part → ∀ left right, part = union left right → right.isUnion = false

theorem leftGrouped_iff {e : Expr}
    : e.LeftGrouped ↔ (∀ left right, e = union left right → right.isUnion = false)
      ∧ ∀ child ∈ e.children, child.LeftGrouped :=
  forall_contains_iff

theorem leftUnionsList_eq_map (es : List Expr) : leftUnionsList es = es.map leftUnions := by
  induction es with
  | nil => rfl
  | cons e es ih => rw [leftUnionsList, ih, List.map_cons]

theorem leftUnionsRows_eq_map (rows : List (List Expr))
    : leftUnionsRows rows = rows.map fun row => row.map leftUnions := by
  induction rows with
  | nil => rfl
  | cons row rows ih => rw [leftUnionsRows, ih, leftUnionsList_eq_map, List.map_cons]

-- Members of unions and their order

theorem isUnion_eq_false {e : Expr} (h : ∀ left right, e = union left right → False)
    : e.isUnion = false := by
  cases e with
  | union left right => exact (h left right rfl).elim
  | _ => rfl

theorem uniteLeft_of_not_isUnion {left e : Expr} (h : e.isUnion = false)
    : uniteLeft left e = union left e := by
  cases e <;> first | rfl | cases h

theorem isUnion_uniteLeft (left e : Expr) : (uniteLeft left e).isUnion := by
  cases e <;> rfl

theorem isUnion_leftUnions (e : Expr) : e.leftUnions.isUnion = e.isUnion := by
  cases e with
  | union left right =>
    rw [leftUnions]
    exact isUnion_uniteLeft _ _
  | _ => simp [isUnion]

theorem unionMembers_of_not_isUnion {e : Expr} (h : e.isUnion = false) : e.unionMembers = [e] := by
  cases e <;> first | rfl | cases h

theorem unionMembers_uniteLeft (left e : Expr)
    : (uniteLeft left e).unionMembers = left.unionMembers ++ e.unionMembers := by
  induction e using uniteLeft.induct with
  | case1 more last ih => rw [uniteLeft, unionMembers, ih, unionMembers, List.append_assoc]
  | case2 e noUnion =>
    have single := isUnion_eq_false noUnion
    rw [uniteLeft_of_not_isUnion single, unionMembers]

/-- Grouping to the left keeps the members of a union in order. -/
theorem unionMembers_leftUnions (e : Expr)
    : e.leftUnions.unionMembers = e.unionMembers.map leftUnions := by
  induction e using unionMembers.induct with
  | case1 left right ihLeft ihRight =>
    rw [leftUnions, unionMembers_uniteLeft, ihLeft, ihRight, unionMembers, List.map_append]
  | case2 e noUnion =>
    have single := isUnion_eq_false noUnion
    rw [unionMembers_of_not_isUnion single, unionMembers_of_not_isUnion]
    · rfl
    · rw [isUnion_leftUnions, single]

-- Unions that are grouped to the left stay so

theorem leftGrouped_uniteLeft {left e : Expr} (hl : left.LeftGrouped) (h : e.LeftGrouped)
    : (uniteLeft left e).LeftGrouped := by
  induction e using uniteLeft.induct with
  | case1 more last ih =>
    obtain ⟨single, below⟩ := leftGrouped_iff.mp h
    simp only [children, List.forall_mem_cons] at below
    refine leftGrouped_iff.mpr ⟨?_, ?_⟩
    · intro left' right' same
      cases same
      exact single _ _ rfl
    · simp only [uniteLeft, children, List.forall_mem_cons]
      exact ⟨ih below.1, below.2⟩
  | case2 e noUnion =>
    have single := isUnion_eq_false noUnion
    rw [uniteLeft_of_not_isUnion single]
    refine leftGrouped_iff.mpr ⟨?_, by simpa using ⟨hl, h⟩⟩
    intro left' right' same
    cases same
    exact single

/-- Apart from unions, the formulas directly below a formula are grouped one by one. -/
theorem children_leftUnions {e : Expr} (h : e.isUnion = false)
    : e.leftUnions.children = e.children.map leftUnions := by
  cases e with
  | union => cases h
  | call f arguments => simp [leftUnionsList_eq_map]
  | array rows => simp [leftUnionsRows_eq_map, List.map_flatten]
  | _ => simp

/-- All unions are grouped to the left, by induction on the formula. -/
theorem leftGrouped_leftUnions (e : Expr) : e.leftUnions.LeftGrouped := by
  induction e using induction_children with
  | step e ih =>
    cases single : e.isUnion with
    | true =>
      cases e with
      | union left right =>
        rw [leftUnions]
        exact leftGrouped_uniteLeft (ih left (by simp)) (ih right (by simp))
      | _ => cases single
    | false =>
      refine leftGrouped_iff.mpr ⟨?_, ?_⟩
      · intro left right same
        have noUnion := isUnion_leftUnions e
        rw [same, single] at noUnion
        cases noUnion
      · rw [children_leftUnions single]
        intro child mem
        obtain ⟨below, inside, rfl⟩ := List.mem_map.mp mem
        exact ih below inside

/-- A formula whose unions are grouped to the left stays as it is, by induction on the formula. -/
theorem leftUnions_eq_self {e : Expr} (h : e.LeftGrouped) : e.leftUnions = e := by
  induction e using induction_children with
  | step e ih =>
    obtain ⟨single, below⟩ := leftGrouped_iff.mp h
    have same : ∀ child ∈ e.children, child.leftUnions = child :=
      fun child mem => ih child mem (below child mem)
    cases e with
    | union left right =>
      simp only [children, List.forall_mem_cons] at same
      rw [leftUnions, same.1, same.2.1, uniteLeft_of_not_isUnion (single left right rfl)]
    | binary op left right =>
      simp only [children, List.forall_mem_cons] at same
      rw [leftUnions, same.1, same.2.1]
    | unary op operand =>
      simp only [children, List.forall_mem_cons] at same
      rw [leftUnions, same.1]
    | call f arguments =>
      have listed : arguments.map leftUnions = arguments :=
        (List.map_congr_left same).trans (List.map_id' _)
      rw [leftUnions, leftUnionsList_eq_map, listed]
    | array rows =>
      have listed : (rows.map fun row => row.map leftUnions) = rows := by
        refine (List.map_congr_left fun row inRows => ?_).trans (List.map_id' _)
        refine (List.map_congr_left fun e inRow => ?_).trans (List.map_id' _)
        exact same e (List.mem_flatten.mpr ⟨row, inRows, inRow⟩)
      rw [leftUnions, leftUnionsRows_eq_map, listed]
    | _ => simp

end Spreadsheet.Expr
