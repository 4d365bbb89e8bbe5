import Mathlib.Data.List.Forall2
import Spreadsheet.Proofs.Evaluation.NameDepth
import Spreadsheet.Proofs.Evaluation.Sound

/-! Two computations side by side. -/

namespace Spreadsheet

variable {ε α β : Type}

/-- Two computations fail for the same reason, or their results are related. -/
inductive Agree (R : α → β → Prop) : Except ε α → Except ε β → Prop where
  | ok {a : α} {b : β} (related : R a b) : Agree R (.ok a) (.ok b)
  | error (e : ε) : Agree R (.error e) (.error e)

namespace Agree

variable {γ δ : Type} {R : α → β → Prop} {S : γ → δ → Prop} {x : Except ε α} {y : Except ε β}

theorem eq {x y : Except ε α} {R : α → α → Prop} (h : Agree R x y) (same : ∀ a b, R a b → a = b)
    : x = y := by
  cases h with
  | ok related => exact congrArg Except.ok (same _ _ related)
  | error e => rfl

theorem exists_of_eq_ok {a : α} (h : Agree R x y) (run : x = .ok a) : ∃ b, y = .ok b ∧ R a b := by
  cases h with
  | ok related =>
    cases run
    exact ⟨_, rfl, related⟩
  | error e => cases run

/-- Results are related along with the fact that they are the results. -/
theorem with_runs (h : Agree R x y) : Agree (fun a b => R a b ∧ x = .ok a ∧ y = .ok b) x y := by
  cases h with
  | ok related => exact .ok ⟨related, rfl, rfl⟩
  | error e => exact .error e

theorem bind {f : α → Except ε γ} {g : β → Except ε δ} (h : Agree R x y)
    (then_ : ∀ a b, R a b → Agree S (f a) (g b))
    : Agree S (x >>= f) (y >>= g) := by
  cases h with
  | ok related => exact then_ _ _ related
  | error e => exact .error e

theorem bind_eq {f : α → Except ε γ} {g : β → Except ε γ} (h : Agree R x y)
    (same : ∀ a b, R a b → f a = g b)
    : x >>= f = y >>= g := by
  cases h with
  | ok related => exact same _ _ related
  | error e => rfl

theorem map {f : α → γ} {g : β → δ} (h : Agree R x y) (then_ : ∀ a b, R a b → S (f a) (g b))
    : Agree S (x.map f) (y.map g) := by
  cases h with
  | ok related => exact .ok (then_ _ _ related)
  | error e => exact .error e

theorem map_eq {f : α → γ} {g : β → γ} (h : Agree R x y) (same : ∀ a b, R a b → f a = g b)
    : x.map f = y.map g := by
  cases h with
  | ok related => exact congrArg Except.ok (same _ _ related)
  | error e => rfl

theorem mapError {ε' : Type} (f : ε → ε') (h : Agree R x y)
    : Agree R (x.mapError f) (y.mapError f) := by
  cases h with
  | ok related => exact .ok related
  | error e => exact .error (f e)

theorem of_eq {x y : Except ε α} {R : α → α → Prop} (same : x = y) (refl : ∀ a, R a a)
    : Agree R x y := by
  subst same
  cases x with
  | ok a => exact .ok (refl a)
  | error e => exact .error e

end Agree

-- Two evaluations side by side

namespace Expr

variable {R : Value → Value → Prop} {names names' : String → Evaluation Value}
  {ctx ctx' : Context}

theorem agree_eval_binary {L S : Value → Value → Prop} {op : BinaryOperator}
    {left left' right right' : Expr}
    (hl : Agree L (left.eval names ctx) (left'.eval names' ctx'))
    (hr : Agree R (right.eval names ctx) (right'.eval names' ctx'))
    (applied : ∀ l l' r r', L l l' → R r r' → Agree S (ctx.binary op l r) (ctx'.binary op l' r'))
    : Agree S ((binary op left right).eval names ctx)
        ((binary op left' right').eval names' ctx') :=
  hl.bind fun _ _ hl => hr.bind fun _ _ hr => (applied _ _ _ _ hl hr).mapError _

theorem agree_eval_unary {S : Value → Value → Prop} {op : UnaryOperator} {operand operand' : Expr}
    (h : Agree R (operand.eval names ctx) (operand'.eval names' ctx'))
    (applied : ∀ v w, R v w → Agree S (ctx.unary op v) (ctx'.unary op w))
    : Agree S ((unary op operand).eval names ctx) ((unary op operand').eval names' ctx') :=
  h.bind fun _ _ related => (applied _ _ related).mapError _

theorem agree_evalList {es : List Expr}
    (h : ∀ e ∈ es, Agree R (e.eval names ctx) (e.eval names' ctx'))
    : Agree (List.Forall₂ R) (evalList names ctx es) (evalList names' ctx' es) := by
  induction es with
  | nil => exact .ok .nil
  | cons e es ih =>
    simp only [List.mem_cons, forall_eq_or_imp] at h
    exact h.1.bind fun _ _ first => (ih h.2).bind fun _ _ others => .ok (.cons first others)

/-- A call goes alike if its arguments do and the function maps related values to related ones. -/
theorem agree_eval_call {S : Value → Value → Prop} {f : String} {arguments : List Expr}
    (h : ∀ e ∈ arguments, Agree R (e.eval names ctx) (e.eval names' ctx'))
    (applied : ∀ (function : Function) vs ws, List.Forall₂ R vs ws
      → Agree S (function.apply ctx vs) (function.apply ctx' ws))
    : Agree S ((call f arguments).eval names ctx) ((call f arguments).eval names' ctx') := by
  have found : Agree Eq (Context.checkCall f arguments.length)
      (Context.checkCall f arguments.length) :=
    Agree.of_eq rfl fun _ => rfl
  refine found.bind fun function _ same => ?_
  subst same
  exact (agree_evalList h).bind fun vs ws related => (applied function vs ws related).mapError _

/-- Rows go alike if related values are the same as elements of an array constant. -/
theorem evalRows_eq {rows : List (List Expr)} (elements : ∀ v w, R v w → element v = element w)
    (h : ∀ row ∈ rows, ∀ e ∈ row, Agree R (e.eval names ctx) (e.eval names' ctx'))
    : evalRows names ctx rows = evalRows names' ctx' rows := by
  induction rows with
  | nil => rfl
  | cons row rows ih =>
    simp only [List.mem_cons, forall_eq_or_imp] at h
    rw [evalRows, evalRows, ih h.2]
    refine (agree_evalList h.1).bind_eq fun vs ws related => ?_
    have same : vs.map element = ws.map element := by
      rw [← List.forall₂_eq_eq_eq, List.forall₂_map_left_iff, List.forall₂_map_right_iff]
      exact related.imp elements
    rw [same]

end Expr

namespace Context

variable {R : Value → Value → Prop} {P : Expr → Prop} {ctx ctx' : Context} {bound : Nat}

/-- Formulas with a property that extends to all they use go alike in two contexts if they do so as
long as the names in them do; by induction on how deeply names are followed.
-/
theorem agree_evaluateWithin (unknown : R (.error .name) (.error .name))
    (sameNames : ∀ n, ctx'.definition? n = ctx.definition? n)
    (closed : ∀ e part, P e → ctx.Uses e part → P part)
    (step : ∀ depth ≤ bound, ∀ e, P e
      → (∀ n, e.Contains (.name n) → Agree R (ctx.nameValue depth n) (ctx'.nameValue depth n))
      → Agree R (ctx.evaluateWithin depth e) (ctx'.evaluateWithin depth e))
    {depth : Nat} (le : depth ≤ bound) {e : Expr} (holds : P e)
    : Agree R (ctx.evaluateWithin depth e) (ctx'.evaluateWithin depth e) := by
  suffices named : ∀ n, P (.name n) → Agree R (ctx.nameValue depth n) (ctx'.nameValue depth n) from
    step depth le e holds fun n within => named n (closed e _ holds (uses_of_contains within))
  clear holds
  induction depth with
  | zero =>
    intro n _
    cases found : ctx.definition? n with
    | none =>
      rw [nameValue_of_unknown found, nameValue_of_unknown ((sameNames n).trans found)]
      exact .ok unknown
    | some d =>
      rw [nameValue_zero found, nameValue_zero ((sameNames n).trans found)]
      exact .error _
  | succ depth ih =>
    intro n holds
    cases found : ctx.definition? n with
    | none =>
      rw [nameValue_of_unknown found, nameValue_of_unknown ((sameNames n).trans found)]
      exact .ok unknown
    | some d =>
      cases parsed : Expr.parse d.formula with
      | error cause =>
        rw [nameValue_of_unreadable found parsed,
          nameValue_of_unreadable ((sameNames n).trans found) parsed]
        exact .error _
      | ok e =>
        rw [nameValue_succ found parsed, nameValue_succ ((sameNames n).trans found) parsed]
        have le : depth ≤ bound := Nat.le_of_succ_le le
        have holds : P e := closed _ e holds (.single (.inr ⟨n, d, rfl, found, parsed⟩))
        exact step depth le e holds fun n' within =>
          ih le n' (closed e _ holds (uses_of_contains within))

end Context

end Spreadsheet
