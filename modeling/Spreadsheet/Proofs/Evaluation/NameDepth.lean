import Spreadsheet.Evaluation.Evaluate
import Spreadsheet.Proofs.Formula.Substitution

/-! How deeply names may be followed only decides whether an evaluation is cut off: as long as it
is not, it goes the same way with more names to follow, and with other formulas in place of the
names.
-/

namespace Spreadsheet

/-- The second evaluation goes like the first one, unless the first one is cut off at a name. -/
def Evaluation.Extends {α : Type} (x y : Evaluation α) : Prop :=
  x = .error .circularReference ∨ y = x

namespace Evaluation

variable {α β : Type} {x y : Evaluation α} {f g : α → Evaluation β}

theorem extends_refl (x : Evaluation α) : x.Extends x :=
  .inr rfl

theorem Extends.bind (h : x.Extends y) (then_ : ∀ a, (f a).Extends (g a))
    : (x >>= f).Extends (y >>= g) := by
  rcases h with rfl | rfl
  · exact .inl rfl
  · cases y with
    | error e => exact extends_refl _
    | ok a => exact then_ a

theorem Extends.map {f : α → β} (h : x.Extends y) : Extends (x.map f) (y.map f) := by
  rcases h with rfl | rfl
  · exact .inl rfl
  · exact extends_refl _

theorem Extends.eq_ok {a : α} (h : x.Extends y) (run : x = .ok a) : y = .ok a := by
  rcases h with cut | same
  · cases cut.symm.trans run
  · exact same.trans run

end Evaluation

open Evaluation

namespace Expr

variable {names names' : String → Evaluation Value} {ctx : Context} {e member : Expr}

/-- The formula is a reference that reads a single cell of a single sheet. Its value is that of the
cell, which does not tell any more where the cell is.
-/
def ReadsCell (ctx : Context) : Expr → Prop
  | cell sheet a => ∃ area, ctx.areas sheet (.single a) = pure [area]
  | _ => False

/-- The areas of any other member of a union are those of its value. -/
theorem memberAreas_eq_map (apart : ¬member.ReadsCell ctx)
    : memberAreas ctx member (fun _ => member.eval names ctx)
      = (member.eval names ctx).map areasOf := by
  cases member with
  | cell sheet a =>
    rw [memberAreas, eval, Context.cellValue]
    match read : ctx.areas sheet (.single a) with
    | .error e => rfl
    | .ok (.error e) => rfl
    | .ok (.ok []) => rfl
    | .ok (.ok [area]) => exact absurd ⟨area, read⟩ apart
    | .ok (.ok (_ :: _ :: _)) => rfl
  | range sheet r =>
    rw [memberAreas, eval, Context.rangeValue]
    match ctx.areas sheet r with
    | .error e => rfl
    | .ok (.error e) => rfl
    | .ok (.ok []) => rfl
    | .ok (.ok [area]) => rfl
    | .ok (.ok (_ :: _ :: _)) => rfl
  | _ => rfl

theorem extends_evalList {g : Expr → Expr} {es : List Expr}
    (h : ∀ e ∈ es, (e.eval names ctx).Extends ((g e).eval names' ctx))
    : (evalList names ctx es).Extends (evalList names' ctx (es.map g)) := by
  induction es with
  | nil => exact extends_refl _
  | cons e es ih =>
    simp only [List.mem_cons, forall_eq_or_imp] at h
    exact h.1.bind fun _ => (ih h.2).bind fun _ => extends_refl _

theorem extends_evalRows {g : Expr → Expr} {rows : List (List Expr)}
    (h : ∀ row ∈ rows, ∀ e ∈ row, (e.eval names ctx).Extends ((g e).eval names' ctx))
    : (evalRows names ctx rows).Extends (evalRows names' ctx (rows.map (·.map g))) := by
  induction rows with
  | nil => exact extends_refl _
  | cons row rows ih =>
    simp only [List.mem_cons, forall_eq_or_imp] at h
    exact (extends_evalList h.1).bind fun _ => (ih h.2).bind fun _ => extends_refl _

/-- A member of a union goes as far as its value, unless a single cell takes the place of a name. -/
theorem extends_memberAreas {f : String → Expr}
    (h : (member.eval names ctx).Extends ((member.mapNames f).eval names' ctx))
    (apart : ∀ n, member = .name n → ¬(f n).ReadsCell ctx)
    : (memberAreas ctx member fun _ => member.eval names ctx).Extends
      (memberAreas ctx (member.mapNames f) fun _ => (member.mapNames f).eval names' ctx) := by
  cases member with
  | cell sheet a => exact extends_refl _
  | range sheet r => exact extends_refl _
  | name n =>
    rw [mapNames, memberAreas_eq_map (apart n rfl)]
    exact h.map
  | _ => exact h.map

/-- An evaluation goes as far as those of the names in it, and of what is put in their places, by
induction on the formula.
-/
theorem extends_mapNames {f : String → Expr} (e : Expr)
    (h : ∀ n, e.Contains (.name n) → (names n).Extends ((f n).eval names' ctx))
    (apart : ∀ n, e.HasMember (.name n) → ¬(f n).ReadsCell ctx)
    : (e.eval names ctx).Extends ((e.mapNames f).eval names' ctx) := by
  induction e using induction_children with
  | step e ih =>
    have children : ∀ child ∈ e.children,
        (child.eval names ctx).Extends ((child.mapNames f).eval names' ctx) :=
      fun child below => ih child below (fun n within => h n (contains_child below within))
        fun n within => apart n (within.of_child below)
    cases e with
    | name n => exact h n (contains_self _)
    | binary op left right =>
      exact (children left (by simp [Expr.children])).bind fun _ =>
        (children right (by simp [Expr.children])).bind fun _ => extends_refl _
    | union left right =>
      have first := extends_memberAreas (children left (by simp [Expr.children])) fun n same =>
        apart n ⟨left, right, contains_self _, .inl same.symm⟩
      have second := extends_memberAreas (children right (by simp [Expr.children])) fun n same =>
        apart n ⟨left, right, contains_self _, .inr same.symm⟩
      refine first.bind fun areas => ?_
      split
      · exact extends_refl _
      · exact second.bind fun _ => extends_refl _
    | unary op operand =>
      exact (children operand (by simp [Expr.children])).bind fun _ => extends_refl _
    | call function arguments =>
      rw [mapNames, mapNamesList_eq_map, eval, eval, List.length_map]
      exact (extends_refl (Context.checkCall function arguments.length)).bind fun _ =>
        (extends_evalList children).bind fun _ => extends_refl _
    | array rows =>
      rw [mapNames, mapNamesRows_eq_map]
      exact (extends_evalRows fun row inRows e inRow =>
        children e (List.mem_flatten.mpr ⟨row, inRows, inRow⟩)).bind fun _ => extends_refl _
    | _ => exact extends_refl _

/-- An evaluation goes as far as those of the names in it. -/
theorem extends_eval (e : Expr)
    (h : ∀ n, e.Contains (.name n) → (names n).Extends (names' n))
    : (e.eval names ctx).Extends (e.eval names' ctx) := by
  have kept : (e.eval names ctx).Extends ((e.mapNames name).eval names' ctx) :=
    extends_mapNames e h fun _ _ => id
  rwa [mapNames_name] at kept

end Expr

namespace Context

variable {ctx : Context} {depth depth' : Nat} {n : String} {d : DefinedName} {e : Expr}

-- The value of a name

theorem nameValue_of_unknown (unknown : ctx.definition? n = none)
    : ctx.nameValue depth n = .ok (.error .name) := by
  cases depth <;> rw [nameValue, unknown]

theorem nameValue_zero (found : ctx.definition? n = some d)
    : ctx.nameValue 0 n = .error .circularReference := by
  rw [nameValue, found]

theorem nameValue_of_unreadable {cause : ParseError} (found : ctx.definition? n = some d)
    (parsed : Expr.parse d.formula = .error cause)
    : ctx.nameValue (depth + 1) n = .error (.parse cause) := by
  rw [nameValue, found]
  change Except.mapError _ (Expr.parse d.formula) >>= _ = _
  rw [parsed]
  rfl

theorem nameValue_succ (found : ctx.definition? n = some d) (parsed : Expr.parse d.formula = .ok e)
    : ctx.nameValue (depth + 1) n = ctx.evaluateWithin depth e := by
  rw [nameValue, found]
  change Except.mapError _ (Expr.parse d.formula) >>= _ = _
  rw [parsed]
  rfl

-- More names to follow

/-- A name is followed at least as far if more names may be, by induction on their number. -/
theorem extends_nameValue (le : depth ≤ depth') (n : String)
    : (ctx.nameValue depth n).Extends (ctx.nameValue depth' n) := by
  induction depth generalizing depth' n with
  | zero =>
    cases found : ctx.definition? n with
    | none => exact .inr ((nameValue_of_unknown found).trans (nameValue_of_unknown found).symm)
    | some d => exact .inl (nameValue_zero found)
  | succ depth ih =>
    obtain ⟨depth', rfl⟩ := Nat.exists_eq_add_of_le' le
    have le : depth ≤ depth' + depth := Nat.le_add_left _ _
    unfold nameValue
    split
    · exact extends_refl _
    · exact (extends_refl _).bind fun e => e.extends_eval fun n _ => ih le n

theorem extends_evaluateWithin (le : depth ≤ depth') (e : Expr)
    : (ctx.evaluateWithin depth e).Extends (ctx.evaluateWithin depth' e) :=
  e.extends_eval fun n _ => extends_nameValue le n

end Context

end Spreadsheet
