import Spreadsheet.Proofs.Formula.Subformula

/-! Formulas with other formulas put in place of their names. -/

namespace Spreadsheet.Expr

mutual

/-- A formula with another one put in place of each name. -/
def mapNames (f : String → Expr) : Expr → Expr
  | name n => f n
  | binary op left right => binary op (mapNames f left) (mapNames f right)
  | union left right => union (mapNames f left) (mapNames f right)
  | unary op operand => unary op (mapNames f operand)
  | call function arguments => call function (mapNamesList f arguments)
  | array rows => array (mapNamesRows f rows)
  | e => e

/-- A list of formulas with another one put in place of each name. -/
def mapNamesList (f : String → Expr) : List Expr → List Expr
  | [] => []
  | e :: rest => mapNames f e :: mapNamesList f rest

/-- Rows of formulas with another one put in place of each name. -/
def mapNamesRows (f : String → Expr) : List (List Expr) → List (List Expr)
  | [] => []
  | row :: rest => mapNamesList f row :: mapNamesRows f rest

end

/-- A formula with another one put in place of one name. -/
def replaceName (e : Expr) (n : String) (d : Expr) : Expr :=
  e.mapNames fun m => if m = n then d else name m

/-- One formula is a member of a union in another one. -/
def HasMember (e member : Expr) : Prop :=
  ∃ left right, e.Contains (union left right) ∧ (member = left ∨ member = right)

variable {f : String → Expr} {e child member : Expr}

theorem mapNamesList_eq_map (es : List Expr) : mapNamesList f es = es.map (mapNames f) := by
  induction es with
  | nil => rfl
  | cons e es ih => rw [mapNamesList, ih, List.map_cons]

theorem mapNamesRows_eq_map (rows : List (List Expr))
    : mapNamesRows f rows = rows.map (·.map (mapNames f)) := by
  induction rows with
  | nil => rfl
  | cons row rows ih => rw [mapNamesRows, ih, mapNamesList_eq_map, List.map_cons]

/-- A formula stays what it is if each name is put in its own place. -/
theorem mapNames_name (e : Expr) : e.mapNames name = e := by
  induction e using induction_children with
  | step e ih =>
    cases e with
    | binary op left right =>
      rw [mapNames, ih left (by simp [children]), ih right (by simp [children])]
    | union left right =>
      rw [mapNames, ih left (by simp [children]), ih right (by simp [children])]
    | unary op operand => rw [mapNames, ih operand (by simp [children])]
    | call function arguments =>
      have kept : ∀ e ∈ arguments, mapNames name e = e := ih
      rw [mapNames, mapNamesList_eq_map, List.map_congr_left kept, List.map_id']
    | array rows =>
      have kept : ∀ row ∈ rows, row.map (mapNames name) = row := by
        intro row inRows
        refine (List.map_congr_left fun e inRow => ?_).trans (List.map_id' row)
        exact ih e (List.mem_flatten.mpr ⟨row, inRows, inRow⟩)
      rw [mapNames, mapNamesRows_eq_map, List.map_congr_left kept, List.map_id']
    | _ => rfl

theorem HasMember.of_child (below : child ∈ e.children) (h : child.HasMember member)
    : e.HasMember member := by
  obtain ⟨left, right, within, side⟩ := h
  exact ⟨left, right, contains_child below within, side⟩

end Spreadsheet.Expr
