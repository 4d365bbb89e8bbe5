import Spreadsheet.Proofs.Evaluation.Agreement
import Spreadsheet.Proofs.Value.Resolve

/-! Functions look at their arguments in a few ways only. Values that correspond in these ways, even
in different contexts, make every function come to corresponding results.
-/

namespace Spreadsheet

section Lists

variable {ε α β γ : Type} {R : α → β → Prop} {xs : List α} {ys : List β}

theorem mapM_eq_of_forall₂ {f : α → Except ε γ} {g : β → Except ε γ}
    (related : List.Forall₂ R xs ys) (same : ∀ x y, R x y → f x = g y)
    : xs.mapM f = ys.mapM g := by
  induction related with
  | nil => rfl
  | cons first _ ih => rw [List.mapM_cons, List.mapM_cons, same _ _ first, ih]

theorem rel_getElem? (related : List.Forall₂ R xs ys) (i : Nat) : Option.Rel R xs[i]? ys[i]? := by
  induction related generalizing i with
  | nil => exact .none
  | cons first _ ih =>
    cases i with
    | zero => exact .some first
    | succ i => exact ih i

end Lists

/-- Values that correspond to each other in two contexts: what functions look at of an argument is
the same in both, and what they make of all its cells corresponds.
-/
structure Correspondence (ctx ctx' : Context) (R : Value → Value → Prop) : Prop where
  system : ctx.dates = ctx'.dates
  year : ctx.year = ctx'.year
  scalar : ∀ v, v.isScalar → R v v
  passedOn : ∀ v w, R v w → R (Scalar.passedOn v) (Scalar.passedOn w)
  seen : ∀ v w, R v w → v.resolve ctx.here = w.resolve ctx'.here
  /-- The cells of a reference count alike for whoever does not count blank ones. -/
  counted : ∀ v w, R v w → ∀ {α : Type} (stored : Value → Except CellError (Option α)),
    stored .blank = .ok none
      → v.storedCells?.map (List.filterMapM stored) = w.storedCells?.map (List.filterMapM stored)
  listed : ∀ v w, R v w → ∀ system year,
    Value.dates system ctx.here (some v) year = Value.dates system ctx'.here (some w) year
  lifted : ∀ v w, R v w → ∀ f : Value → Value, (∀ x, (f x).isScalar)
    → Agree R (ctx.lift v f) (ctx'.lift w f)

namespace Correspondence

variable {ctx ctx' : Context} {R : Value → Value → Prop} {v v' w w' : Value} {x y : Option Value}
  {vs ws : List Value}

-- Single arguments

theorem given (h : Correspondence ctx ctx' R) (related : Option.Rel R x y)
    : R (x.getD .missing) (y.getD .missing) := by
  cases related with
  | none => exact h.scalar .missing rfl
  | some related => exact related

theorem number (h : Correspondence ctx ctx' R) (related : R v w)
    : ctx.number v = ctx'.number w := by
  rw [Context.number, Context.number, Value.resolveNumber, Value.resolveNumber, h.seen v w related]

theorem date (h : Correspondence ctx ctx' R) (related : R v w) (system : DateSystem)
    (year : Int)
    : v.date system ctx.here year = w.date system ctx'.here year := by
  rw [Value.date, Value.date, h.seen v w related]

theorem dates (h : Correspondence ctx ctx' R) (related : Option.Rel R x y) (system : DateSystem)
    (year : Int)
    : Value.dates system ctx.here x year = Value.dates system ctx'.here y year := by
  cases related with
  | none => rfl
  | some related => exact h.listed _ _ related system year

-- All arguments together

theorem collect (h : Correspondence ctx ctx' R) {α : Type}
    {direct stored : Value → Except CellError (Option α)} (arguments : List.Forall₂ R vs ws)
    (skipsBlank : stored .blank = .ok none)
    : Aggregate.collect ctx direct stored vs = Aggregate.collect ctx' direct stored ws := by
  refine congrArg (· >>= _) (mapM_eq_of_forall₂ arguments fun v w related => ?_)
  have cells := h.counted v w related stored skipsBlank
  cases found : v.storedCells? with
  | none =>
    cases found' : w.storedCells? with
    | none => rw [Context.scalar, Context.scalar, h.seen v w related]
    | some others => simp [found, found'] at cells
  | some values =>
    cases found' : w.storedCells? with
    | none => simp [found, found'] at cells
    | some others => simpa [found, found'] using cells

theorem sum (h : Correspondence ctx ctx' R) (arguments : List.Forall₂ R vs ws)
    : Aggregate.sum ctx vs = Aggregate.sum ctx' ws := by
  rw [Aggregate.sum, Aggregate.sum, Aggregate.numbers, Aggregate.numbers, h.collect arguments rfl]

theorem product (h : Correspondence ctx ctx' R) (arguments : List.Forall₂ R vs ws)
    : Aggregate.product ctx vs = Aggregate.product ctx' ws := by
  rw [Aggregate.product, Aggregate.product, Aggregate.numbers, Aggregate.numbers,
    h.collect arguments rfl]

theorem logicals (h : Correspondence ctx ctx' R) (arguments : List.Forall₂ R vs ws)
    : Aggregate.logicals ctx vs = Aggregate.logicals ctx' ws := by
  rw [Aggregate.logicals, Aggregate.logicals, h.collect arguments rfl]

theorem conjunction (h : Correspondence ctx ctx' R) (arguments : List.Forall₂ R vs ws)
    : Aggregate.conjunction ctx vs = Aggregate.conjunction ctx' ws := by
  rw [Aggregate.conjunction, Aggregate.conjunction, h.logicals arguments]

theorem disjunction (h : Correspondence ctx ctx' R) (arguments : List.Forall₂ R vs ws)
    : Aggregate.disjunction ctx vs = Aggregate.disjunction ctx' ws := by
  rw [Aggregate.disjunction, Aggregate.disjunction, h.logicals arguments]

theorem concatenate (h : Correspondence ctx ctx' R) (arguments : List.Forall₂ R vs ws)
    : Aggregate.concatenate ctx vs = Aggregate.concatenate ctx' ws := by
  rw [Aggregate.concatenate, Aggregate.concatenate,
    mapM_eq_of_forall₂ arguments fun v w related => ?_]
  rw [Value.resolveText, Value.resolveText, h.seen v w related]

-- Choices

/-- The same choice is made between corresponding values. -/
theorem choose (h : Correspondence ctx ctx' R) (condition : R v w) (yes : R v' w')
    (no : Option.Rel R x y)
    : R (Scalar.choose ctx v v' x) (Scalar.choose ctx' w w' y) := by
  unfold Scalar.choose
  rw [Context.scalar, Context.scalar, h.seen v w condition]
  cases w.resolve ctx'.here with
  | error e => exact h.scalar _ rfl
  | ok value =>
    change R (Value.ofExcept (value.toBoolean false >>= _))
      (Value.ofExcept (value.toBoolean false >>= _))
    cases value.toBoolean false with
    | error e => exact h.scalar _ rfl
    | ok holds =>
      cases holds with
      | true => exact h.passedOn _ _ yes
      | false =>
        cases no with
        | none => exact h.scalar _ rfl
        | some related => exact h.passedOn _ _ related

theorem ifError (h : Correspondence ctx ctx' R) (related : R v w) (fallback : R v' w')
    : R (Scalar.ifError ctx v v') (Scalar.ifError ctx' w w') := by
  rw [Scalar.ifError, Scalar.ifError, Context.scalar, Context.scalar, h.seen v w related]
  split
  · exact related
  · exact h.passedOn _ _ fallback

-- Dates

theorem part (h : Correspondence ctx ctx' R) (related : R v w) (field : CalendarDate → Int)
    : DateFunction.part field ctx v = DateFunction.part field ctx' w := by
  rw [DateFunction.part, DateFunction.part, h.system, h.year, h.date related]

theorem daysBetween (h : Correspondence ctx ctx' R) (last : R v w) (first : R v' w')
    : DateFunction.daysBetween ctx v v' = DateFunction.daysBetween ctx' w w' := by
  rw [DateFunction.daysBetween, DateFunction.daysBetween, h.system, h.year, h.date last,
    h.date first]

theorem workingDays (h : Correspondence ctx ctx' R) (start : R v w) (stop : R v' w')
    (holidays : Option.Rel R x y)
    : DateFunction.workingDays ctx v v' x = DateFunction.workingDays ctx' w w' y := by
  simp only [DateFunction.workingDays, h.system, h.year, h.date start, h.date stop,
    h.dates holidays]

end Correspondence

namespace Function

variable {ctx ctx' : Context} {R : Value → Value → Prop} {vs ws : List Value}

/-- The sum, the product and the two combinations of truth values are those of corresponding
arguments.
-/
theorem apply_eq_of_aggregate {f : Function}
    (aggregate : f ∈ [sum, product, conjunction, disjunction]) (h : Correspondence ctx ctx' R)
    (arguments : List.Forall₂ R vs ws)
    : f.apply ctx vs = f.apply ctx' ws := by
  simp only [List.mem_cons, List.not_mem_nil, or_false] at aggregate
  rcases aggregate with rfl | rfl | rfl | rfl
  · exact congrArg Except.ok (h.sum arguments)
  · exact congrArg Except.ok (h.product arguments)
  · exact congrArg Except.ok (h.conjunction arguments)
  · exact congrArg Except.ok (h.disjunction arguments)

/-- Corresponding arguments make a function come to corresponding results, case by case. -/
theorem agree_apply_of_correspondence (f : Function) (h : Correspondence ctx ctx' R)
    (arguments : List.Forall₂ R vs ws)
    : Agree R (f.apply ctx vs) (f.apply ctx' ws) := by
  have optional (index : Nat) : Option.Rel R vs[index]? ws[index]? := rel_getElem? arguments index
  have given (index : Nat) : R ((vs[index]?).getD .missing) ((ws[index]?).getD .missing) :=
    h.given (optional index)
  have equal {value value' : Value} (same : value = value') (plain : value.IsPlain)
      : Agree R (.ok value : Outcome) (.ok value') :=
    same ▸ .ok (h.scalar value plain.isScalar)
  cases f with
  | sum => exact equal (h.sum arguments) (Value.isPlain_ofNumber _)
  | product => exact equal (h.product arguments) (Value.isPlain_ofNumber _)
  | conjunction =>
    exact equal (h.conjunction arguments) (Value.isPlain_ofExcept_map fun _ => trivial)
  | disjunction =>
    exact equal (h.disjunction arguments) (Value.isPlain_ofExcept_map fun _ => trivial)
  | concatenate => exact equal (h.concatenate arguments) (Aggregate.isPlain_concatenate ctx vs)
  | power =>
    refine equal ?_ (Arithmetic.isPlain_evaluate .power)
    exact Arithmetic.evaluate_congr _ (h.seen _ _ (given 0)) (h.seen _ _ (given 1))
  | modulo =>
    refine equal ?_ (Value.isPlain_ofNumber _)
    rw [Scalar.modulo, Scalar.modulo, h.number (given 0), h.number (given 1)]
  | negation =>
    refine equal ?_ (Scalar.isPlain_negation ctx _)
    rw [Scalar.negation, Scalar.negation, Context.scalar, Context.scalar, h.seen _ _ (given 0)]
  | choose => exact .ok (h.choose (given 0) (given 1) (optional 2))
  | ifError => exact .ok (h.ifError (given 0) (given 1))
  | logicalTrue => exact .ok (h.scalar _ rfl)
  | logicalFalse => exact .ok (h.scalar _ rfl)
  | notAvailable => exact .ok (h.scalar _ rfl)
  | date =>
    refine equal ?_ (DateFunction.isPlain_date ctx _ _ _)
    rw [DateFunction.date, DateFunction.date, DateFunction.integer, DateFunction.integer,
      DateFunction.integer, h.number (given 0), h.number (given 1), h.number (given 2), h.system]
    rfl
  | year => exact equal (h.part (given 0) _) (Value.isPlain_ofNumber _)
  | month => exact equal (h.part (given 0) _) (Value.isPlain_ofNumber _)
  | day => exact equal (h.part (given 0) _) (Value.isPlain_ofNumber _)
  | daysBetween => exact equal (h.daysBetween (given 0) (given 1)) (Value.isPlain_ofNumber _)
  | workingDays =>
    exact equal (h.workingDays (given 0) (given 1) (optional 2)) (Value.isPlain_ofNumber _)
  | absolute => exact h.lifted _ _ (given 0) _ fun _ => (Value.isPlain_ofNumber _).isScalar
  | length => exact h.lifted _ _ (given 0) _ fun _ => (Scalar.isPlain_length _).isScalar
  | upper => exact h.lifted _ _ (given 0) _ fun _ => (Scalar.isPlain_upper _).isScalar
  | lower => exact h.lifted _ _ (given 0) _ fun _ => (Scalar.isPlain_lower _).isScalar
  | _ => exact h.lifted _ _ (given 0) _ fun _ => rfl

end Function

end Spreadsheet
