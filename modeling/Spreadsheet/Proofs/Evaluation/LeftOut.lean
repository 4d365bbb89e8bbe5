import Spreadsheet.Proofs.Evaluation.CellReference
import Spreadsheet.Proofs.Evaluation.Sound
import Spreadsheet.Proofs.Evaluation.Termination
import Spreadsheet.Proofs.Function.Given
import Spreadsheet.Proofs.Value.Resolve

/-! What becomes of arguments that were left out. They do not get out of the call that they belong
to, except where one of them is guarded against errors.
-/

namespace Spreadsheet

-- Reading cells

/-- What a sheet holds fits cells. -/
theorem Area.Shows.filled {area : Area Value} {sheet : Sheet} {r : Range}
    (shows_ : area.Shows sheet r)
    : area.Filled := by
  intro value mem
  obtain ⟨p, rfl⟩ := shows_.stored value mem
  exact Value.fitsCell_ofContent _

namespace Context

variable {ctx : Context} {ref : Option SheetRef} {r : Range} {a : Address} {value : Value}

theorem filled_areas {areas : List (Area Value)} (read : ctx.areas ref r = pure areas)
    : ∀ area ∈ areas, area.Filled := by
  cases inBook : ctx.book with
  | none =>
    rw [areas_eq_blank inBook] at read
    obtain ⟨area, built, same⟩ := Reading.bind_eq_pure.mp read
    obtain ⟨_, rfl⟩ := Area.blank_eq_ok.mp (Reading.lift_eq_pure.mp built)
    cases same
    simp [Area.Filled, Area.unstored]
  | some book =>
    obtain ⟨indices, -, reads⟩ := (areas_eq_pure inBook).mp read
    clear read
    induction reads with
    | nil => simp
    | cons first _ ih =>
      obtain ⟨sheet, _, read⟩ := Workbook.areaAt_eq_pure.mp first
      exact List.forall_mem_cons.mpr ⟨(Sheet.shows_of_area read).filled, ih⟩

theorem isGiven_rangeValue (read : ctx.rangeValue ref r = .ok value) : value.IsGiven := by
  rcases readValue_eq_ok.mp read with read | ⟨e, _, rfl⟩
  · obtain ⟨areas, found, same⟩ := Reading.bind_eq_pure.mp read
    have filled := filled_areas found
    split at same
    · cases same
      exact filled _ List.mem_cons_self
    · cases same
      exact filled
  · trivial

theorem isGiven_cellValue (read : ctx.cellValue ref a = .ok value) : value.IsGiven := by
  rcases readValue_eq_ok.mp read with read | ⟨e, _, rfl⟩
  · obtain ⟨areas, found, same⟩ := Reading.bind_eq_pure.mp read
    have filled := filled_areas found
    split at same
    · next area =>
      cases same
      unfold Area.relative?
      split
      · exact ((filled area List.mem_cons_self).stored? 0 0).isGiven
      · trivial
    · cases same
      exact filled
  · trivial

theorem checkCall_eq_ok {name : String} {count : Nat} {f : Function}
    (found : checkCall name count = .ok f)
    : Function.ofName? name = some f ∧ f.minArguments ≤ count := by
  unfold checkCall at found
  split at found
  · cases found
  · next g named =>
    split at found
    · cases found
    · next enough =>
      have same : g = f := by
        split at found
        · split at found
          · cases found
          · exact Except.ok.inj found
        · exact Except.ok.inj found
      subst same
      exact ⟨named, Nat.not_lt.mp enough⟩

end Context

-- Evaluating formulas

namespace Expr

variable {names : String → Evaluation Value} {ctx : Context} {e : Expr} {value : Value}

/-- A call guards an argument against errors that was left out. -/
def GuardsNothing : Expr → Prop
  | call f arguments => Function.ofName? f = some .ifError ∧ arguments.head? = some missing
  | _ => False

/-- What it takes for the value of a formula to be given, apart from the formulas below it. -/
structure Supplied (names : String → Evaluation Value) (e : Expr) : Prop where
  proper : e.Proper
  guards : ¬e.GuardsNothing
  names : ∀ n, e = .name n → ∀ value, names n = .ok value → value.IsGiven

theorem filled_memberAreas {areas : List (Area Value)}
    (given : ∀ value, e.eval names ctx = .ok value → value.IsGiven)
    (collected : (memberAreas ctx e fun _ => e.eval names ctx) = .ok (.ok areas))
    : ∀ area ∈ areas, area.Filled := by
  unfold memberAreas at collected
  split at collected
  · exact Context.filled_areas (except_mapError_eq_ok.mp collected)
  · exact Context.filled_areas (except_mapError_eq_ok.mp collected)
  · obtain ⟨value, run, found⟩ := except_map_eq_ok.mp collected
    have given := given value run
    cases value with
    | area a =>
      cases found
      exact List.forall_mem_singleton.mpr given
    | union areas =>
      cases found
      exact given
    | _ => cases found

theorem fitsCell_element (h : value.IsGiven) : (element value).FitsCell := by
  unfold element
  split
  · next scalar => exact h.fitsCell scalar
  · trivial

/-- A call may have left out some of its arguments, but not the one that it guards. -/
theorem isGiven_of_eval_call {f : String} {arguments : List Expr}
    (guards : ¬(call f arguments).GuardsNothing)
    (each : ∀ argument ∈ arguments, argument ≠ .missing → ∀ value,
      argument.eval names ctx = .ok value → value.IsGiven)
    (run : (call f arguments).eval names ctx = .ok value)
    : value.IsGiven := by
  obtain ⟨function, found, run⟩ := except_bind_eq_ok.mp run
  obtain ⟨values, evaluated, run⟩ := except_bind_eq_ok.mp run
  obtain ⟨named, enough⟩ := Context.checkCall_eq_ok found
  refine Function.isGiven_of_apply ?_ ?_ (except_mapError_eq_ok.mp run)
  · rw [evalList_eq_mapM] at evaluated
    refine (forall_of_mapM_eq_ok evaluated fun argument mem value shown => ?_).2
    by_cases leftOut : argument = .missing
    · subst leftOut
      exact .inl (Except.ok.inj shown).symm
    · exact .inr (each argument mem leftOut value shown)
  · -- The arity check makes sure that there is an argument to guard.
    rintro rfl
    cases arguments with
    | nil => cases enough
    | cons first rest =>
      have present : first ≠ .missing := fun leftOut => guards ⟨named, congrArg some leftOut⟩
      obtain ⟨guarded, shown, evaluated⟩ := except_bind_eq_ok.mp evaluated
      obtain ⟨others, _, same⟩ := except_bind_eq_ok.mp evaluated
      cases same
      exact each first List.mem_cons_self present guarded shown

theorem isGiven_of_eval_array {rows : List (List Expr)}
    (each : ∀ row ∈ rows, ∀ e ∈ row, ∀ value, e.eval names ctx = .ok value → value.IsGiven)
    (run : (array rows).eval names ctx = .ok value)
    : value.IsGiven := by
  obtain ⟨table, evaluated, run⟩ := except_bind_eq_ok.mp run
  rw [evalRows_eq_mapM] at evaluated
  split at run
  · next a built =>
    cases run
    refine Area.filled_of_ofRows built
      (forall_of_mapM_eq_ok evaluated fun row inRows shown evaluated => ?_).2
    obtain ⟨values, ran, same⟩ := except_bind_eq_ok.mp evaluated
    cases same
    refine List.forall_mem_map.mpr ?_
    exact (forall_of_mapM_eq_ok ran fun e inRow value shown =>
      fitsCell_element (each row inRows e inRow value shown)).2
  · cases run

/-- The value of a formula was given if all its parts are supplied, by induction on the formula. -/
theorem isGiven_of_eval (supplied : ∀ part, e.Contains part → part.Supplied names)
    (present : e ≠ .missing) (run : e.eval names ctx = .ok value)
    : value.IsGiven := by
  induction e using induction_children generalizing value with
  | step e ih =>
    obtain ⟨own, below⟩ := forall_contains_iff.mp supplied
    have children : ∀ child ∈ e.children, child ≠ .missing → ∀ value,
        child.eval names ctx = .ok value → value.IsGiven :=
      fun child mem present value run => ih child mem (below child mem) present run
    cases e with
    | missing => exact absurd rfl present
    | cell sheet a => exact Context.isGiven_cellValue (except_mapError_eq_ok.mp run)
    | range sheet r => exact Context.isGiven_rangeValue (except_mapError_eq_ok.mp run)
    | name n => exact own.names n rfl value run
    | binary op left right =>
      obtain ⟨l, _, run⟩ := except_bind_eq_ok.mp run
      obtain ⟨r, _, run⟩ := except_bind_eq_ok.mp run
      exact Context.isGiven_of_binary (except_mapError_eq_ok.mp run)
    | union left right =>
      have first := children left (by simp [Expr.children]) own.proper.1
      have second := children right (by simp [Expr.children]) own.proper.2
      obtain ⟨outcome, collected, run⟩ := except_bind_eq_ok.mp run
      split at run
      · cases run
        trivial
      · next areas =>
        obtain ⟨outcome, collected', run⟩ := except_bind_eq_ok.mp run
        split at run
        · cases run
          trivial
        · next more =>
          cases run
          exact List.forall_mem_append.mpr
            ⟨filled_memberAreas first collected, filled_memberAreas second collected'⟩
    | unary op operand =>
      obtain ⟨shown, evaluated, run⟩ := except_bind_eq_ok.mp run
      have given := children operand (by simp [Expr.children]) own.proper shown evaluated
      exact Context.isGiven_of_unary given (except_mapError_eq_ok.mp run)
    | call f arguments => exact isGiven_of_eval_call own.guards children run
    | array rows =>
      refine isGiven_of_eval_array (fun row inRows e inRow => ?_) run
      have present : e ≠ .missing := fun leftOut => own.proper.2.2 row inRows (leftOut ▸ inRow)
      exact children e (List.mem_flatten.mpr ⟨row, inRows, inRow⟩) present
    | _ =>
      cases run
      trivial

end Expr

namespace Context

variable {ctx : Context} {e : Expr} {value : Value} {depth : Nat}

/-- Names have values that were given as deep as they are followed, by induction on the depth. -/
theorem isGiven_nameValue {n : String}
    (guards : ∀ part, ctx.Uses (.name n) part → ¬part.GuardsNothing)
    (run : ctx.nameValue depth n = .ok value)
    : value.IsGiven := by
  induction depth generalizing n value with
  | zero =>
    unfold nameValue at run
    split at run
    · cases run
      trivial
    · cases run
  | succ depth ih =>
    unfold nameValue at run
    split at run
    · cases run
      trivial
    · next d found =>
      obtain ⟨e, parsed, run⟩ := except_bind_eq_ok.mp run
      have parsed := except_mapError_eq_ok.mp parsed
      obtain ⟨wellFormed, present⟩ := Expr.wellFormed_of_parse parsed
      have uses {part : Expr} (h : e.Contains part) : ctx.Uses (.name n) part :=
        .head (.inr ⟨n, d, rfl, found, parsed⟩) (uses_of_contains h)
      refine Expr.isGiven_of_eval (fun part within => ⟨wellFormed part within,
        guards part (uses within), fun n' same value run => ?_⟩) present run
      subst same
      exact ih (fun part further => guards part ((uses within).trans further)) run

theorem isGiven_of_evaluateWithin (wellFormed : e.WellFormed) (present : e ≠ .missing)
    (guards : ∀ part, ctx.Uses e part → ¬part.GuardsNothing)
    (run : ctx.evaluateWithin depth e = .ok value)
    : value.IsGiven := by
  refine Expr.isGiven_of_eval (fun part within => ⟨wellFormed part within,
    guards part (uses_of_contains within), fun n same value run => ?_⟩) present run
  subst same
  exact isGiven_nameValue
    (fun part further => guards part ((uses_of_contains within).trans further)) run

-- Calls that return what was left out

theorem ofName?_of_evaluateWithin {f : Function} {name : String} {arguments : List Expr}
    (named : Function.ofName? name = some f)
    (run : ctx.evaluateWithin depth (.call name arguments) = .ok value)
    : f.minArguments ≤ arguments.length ∧ ∃ values,
      arguments.mapM (ctx.evaluateWithin depth) = .ok values ∧ f.apply ctx values = .ok value := by
  obtain ⟨function, found, run⟩ := except_bind_eq_ok.mp run
  obtain ⟨values, evaluated, run⟩ := except_bind_eq_ok.mp run
  obtain ⟨named', enough⟩ := checkCall_eq_ok found
  cases named.symm.trans named'
  exact ⟨enough, values, Expr.evalList_eq_mapM arguments ▸ evaluated, except_mapError_eq_ok.mp run⟩

/-- A call returns an argument that was left out: the choice of a condition, or the fallback for an
error.
-/
inductive ReturnsLeftOut (ctx : Context) (depth : Nat) : Expr → Prop
  | choice {name : String} {condition yes : Expr} {rest : List Expr} {shown : Value} {holds : Bool}
      (named : Function.ofName? name = some .choose)
      (evaluated : ctx.evaluateWithin depth condition = .ok shown)
      (truth : (ctx.scalar shown >>= fun value => value.toBoolean false) = .ok holds)
      (selected : (if holds then some yes else rest.head?) = some .missing)
    : ReturnsLeftOut ctx depth (.call name (condition :: yes :: rest))
  | fallback {name : String} {argument : Expr} {shown : Value} {e : CellError}
      (named : Function.ofName? name = some .ifError)
      (evaluated : ctx.evaluateWithin depth argument = .ok shown)
      (fails : ctx.scalar shown = .error e)
    : ReturnsLeftOut ctx depth (.call name [argument, .missing])

/-- What was left out is blank once it is returned. -/
theorem ReturnsLeftOut.eq_blank (returns : ctx.ReturnsLeftOut depth e)
    (run : ctx.evaluateWithin depth e = .ok value)
    : value = .blank := by
  cases returns with
  | @choice name condition yes rest shown holds named evaluated truth selected =>
    obtain ⟨_, values, ran, applied⟩ := ofName?_of_evaluateWithin named run
    obtain ⟨first, _, runFirst, ranRest, rfl⟩ := mapM_cons_eq_ok.mp ran
    obtain ⟨second, _, runYes, ranNo, rfl⟩ := mapM_cons_eq_ok.mp ranRest
    cases evaluated.symm.trans runFirst
    cases applied
    refine Scalar.choose_eq_blank truth ?_
    cases holds with
    | true =>
      cases selected
      cases runYes
      rfl
    | false =>
      cases rest with
      | nil => cases selected
      | cons no rest =>
        obtain ⟨third, _, runNo, _, rfl⟩ := mapM_cons_eq_ok.mp ranNo
        cases selected
        cases runNo
        rfl
  | fallback named evaluated fails =>
    obtain ⟨_, values, ran, applied⟩ := ofName?_of_evaluateWithin named run
    obtain ⟨first, _, runFirst, ranRest, rfl⟩ := mapM_cons_eq_ok.mp ran
    obtain ⟨second, _, runFallback, _, rfl⟩ := mapM_cons_eq_ok.mp ranRest
    cases evaluated.symm.trans runFirst
    cases runFallback
    cases applied
    exact Scalar.ifError_eq_blank fails

theorem eq_missing_of_guardsNothing (guards : e.GuardsNothing)
    (run : ctx.evaluateWithin depth e = .ok value)
    : value = .missing := by
  cases e with
  | call f arguments =>
    obtain ⟨named, leftOut⟩ := guards
    obtain ⟨_, values, ran, applied⟩ := ofName?_of_evaluateWithin named run
    obtain ⟨rest, rfl⟩ := List.head?_eq_some_iff.mp leftOut
    obtain ⟨first, _, guarded, _, rfl⟩ := mapM_cons_eq_ok.mp ran
    cases guarded
    cases applied
    exact Scalar.ifError_missing
  | _ => cases guards

/-- In whatever a formula that was parsed uses, an argument that was left out does not get out of
its call, neither as a value nor as a cell of an area, and is blank once the call returns it. The
exception is a call that guards it against errors: it always has it as its value.
-/
theorem left_out_stays_inside (ctx : Context) {text : String} {e part : Expr}
    (parsed : Expr.parse text = .ok e) (used : ctx.Uses e part) {depth : Nat} {value : Value}
    (run : ctx.evaluateWithin depth part = .ok value)
    : (part ≠ .missing → (∀ inner, ctx.Uses part inner → ¬inner.GuardsNothing) → value.IsGiven)
      ∧ (ctx.ReturnsLeftOut depth part → value = .blank)
      ∧ (part.GuardsNothing → value = .missing) := by
  have wellFormed := wellFormed_of_uses (Expr.wellFormed_of_parse parsed).1 used
  refine ⟨fun present guards => ?_, fun returns => returns.eq_blank run,
    fun guards => eq_missing_of_guardsNothing guards run⟩
  exact isGiven_of_evaluateWithin wellFormed present guards run

/-- A choice that was left out. -/
theorem left_out_stays_inside_choice
    : let ctx : Context := {}
      let e : Expr := .call "IF" [.boolean true, .missing]
      Expr.parse "=IF(TRUE,)" = .ok e
        ∧ ∃ value, ctx.evaluate e = .ok value ∧ value.IsGiven ∧ value = .blank := by
  intro ctx e
  have parsed : Expr.parse "=IF(TRUE,)" = .ok e := by
    with_unfolding_all rfl
  have named : Function.ofName? "IF" = some .choose := by
    decide +kernel
  have run : ctx.evaluate e = .ok (Scalar.choose ctx (.boolean true) .missing none) := by
    rw [evaluate, evaluateWithin, Expr.eval, checkCall, named]
    rfl
  have seen : (ctx.scalar (.boolean true) >>= fun value => value.toBoolean false) = .ok true := by
    rw [scalar, Value.resolve_of_isScalar rfl rfl]
    rfl
  have returns : ctx.ReturnsLeftOut maxNameDepth e := .choice named rfl seen rfl
  have parts : ∀ inner, e.Contains inner →
      inner = e ∨ inner = .boolean true ∨ inner = .missing := by
    refine Expr.forall_contains_iff.mpr ⟨.inl rfl, List.forall_mem_cons.mpr ⟨?_, ?_⟩⟩
    · exact Expr.forall_contains_of_leaf rfl (.inr (.inl rfl))
    · exact List.forall_mem_singleton.mpr (Expr.forall_contains_of_leaf rfl (.inr (.inr rfl)))
  have noNames : ∀ n, ¬e.Contains (.name n) := by
    intro n within
    rcases parts _ within with same | same | same
    · exact Expr.noConfusion same
    · cases same
    · cases same
  have guards : ∀ inner, ctx.Uses e inner → ¬inner.GuardsNothing := by
    intro inner used guards
    rcases parts inner (contains_of_uses noNames used) with rfl | rfl | rfl
    · cases named.symm.trans guards.1
    · exact guards
    · exact guards
  have present : e ≠ .missing := fun leftOut => Expr.noConfusion leftOut
  obtain ⟨given, blank, _⟩ := left_out_stays_inside ctx parsed .refl run
  exact ⟨parsed, _, run, given present guards, blank returns⟩

/-- The value of an argument that was left out gets out of a call that guards it against errors. -/
theorem evaluate_guarded_missing
    : let ctx : Context := {}
      let e : Expr := .call "IFERROR" [.missing, .number 5]
      Expr.parse "=IFERROR(,5)" = .ok e ∧ ctx.evaluate e = .ok .missing := by
  intro ctx e
  have parsed : Expr.parse "=IFERROR(,5)" = .ok e := by
    with_unfolding_all rfl
  have named : Function.ofName? "IFERROR" = some .ifError := by
    decide +kernel
  have run : ctx.evaluate e = .ok (Scalar.ifError ctx .missing (.number 5)) := by
    rw [evaluate, evaluateWithin, Expr.eval, checkCall, named]
    rfl
  exact ⟨parsed, run.trans (congrArg Except.ok Scalar.ifError_missing)⟩

end Context

end Spreadsheet
