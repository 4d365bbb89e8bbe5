import Spreadsheet.Proofs.Value.Given

/-! Functions that are given some of their arguments, with the others left out, give a value in
return. Only the guard against errors hands an argument on as it is, so that it returns nothing if
the argument that it guards was left out.
-/

namespace Spreadsheet

variable {ctx : Context} {value condition yes argument fallback : Value} {no : Option Value}

namespace Scalar

/-- An argument that was left out is passed on as a blank. -/
theorem isGiven_passedOn (h : value = .missing ∨ value.IsGiven) : (passedOn value).IsGiven := by
  rcases h with rfl | given
  · trivial
  · unfold passedOn
    split
    · trivial
    · exact given

theorem isGiven_choose (givenYes : yes = .missing ∨ yes.IsGiven)
    (givenNo : ∀ value ∈ no, value = .missing ∨ value.IsGiven)
    : (choose ctx condition yes no).IsGiven := by
  unfold choose
  cases ctx.scalar condition with
  | error e => trivial
  | ok seen =>
    change (Value.ofExcept (seen.toBoolean false >>= _)).IsGiven
    cases seen.toBoolean false with
    | error e => trivial
    | ok holds =>
      cases holds with
      | true => exact isGiven_passedOn givenYes
      | false =>
        cases no with
        | none => trivial
        | some no => exact isGiven_passedOn (givenNo no rfl)

theorem isGiven_ifError (given : argument.IsGiven)
    (givenFallback : fallback = .missing ∨ fallback.IsGiven)
    : (ifError ctx argument fallback).IsGiven := by
  unfold ifError
  split
  · exact given
  · exact isGiven_passedOn givenFallback

/-- The choice of an argument that was left out is blank. -/
theorem choose_eq_blank {holds : Bool}
    (seen : (ctx.scalar condition >>= fun value => value.toBoolean false) = .ok holds)
    (selected : (if holds then some yes else no) = some .missing)
    : choose ctx condition yes no = .blank := by
  obtain ⟨value, shown, truth⟩ := except_bind_eq_ok.mp seen
  unfold choose
  rw [shown]
  change Value.ofExcept (value.toBoolean false >>= _) = _
  rw [truth]
  cases holds with
  | true =>
    cases selected
    rfl
  | false =>
    cases selected
    rfl

/-- In place of an error, a fallback that was left out is blank. -/
theorem ifError_eq_blank {e : CellError} (seen : ctx.scalar argument = .error e)
    : ifError ctx argument .missing = .blank := by
  rw [ifError, seen]
  rfl

/-- An argument that was left out shows no error, so that it is not replaced. -/
theorem ifError_missing : ifError ctx .missing fallback = .missing := by
  rw [ifError, Context.scalar, Value.resolve]
  all_goals simp

end Scalar

theorem DateFunction.fitsCell_date (ctx : Context) (year month day : Value)
    : (date ctx year month day).FitsCell := by
  refine Value.fitsCell_ofExcept_bind fun year => Value.fitsCell_ofExcept_bind fun month =>
    Value.fitsCell_ofExcept_bind fun day => ?_
  split <;> trivial

/-- Every function gives a value, case by case, as long as the argument guarded against errors was
given.
-/
theorem Function.isGiven_of_apply {f : Function} {arguments : List Value}
    (given : ∀ argument ∈ arguments, argument = .missing ∨ argument.IsGiven)
    (guarded : f = ifError → ((arguments[0]?).getD Value.missing).IsGiven)
    (run : f.apply ctx arguments = .ok value)
    : value.IsGiven := by
  have optional (index : Nat)
      : ∀ value ∈ arguments[index]?, value = Value.missing ∨ value.IsGiven :=
    fun value found => given value (List.mem_of_getElem? found)
  have argument (index : Nat) : (arguments[index]?).getD Value.missing = .missing
      ∨ ((arguments[index]?).getD Value.missing).IsGiven := by
    cases found : arguments[index]? with
    | none => exact .inl rfl
    | some value => exact optional index value found
  have gives {result : Value} (same : f.apply ctx arguments = .ok result) (fits : result.FitsCell)
      : value.IsGiven := by
    cases same.symm.trans run
    exact fits.isGiven
  cases f with
  | sum => exact gives rfl (Value.fitsCell_ofNumber _)
  | product => exact gives rfl (Value.fitsCell_ofNumber _)
  | conjunction => exact gives rfl (Value.fitsCell_ofExcept_map fun _ => trivial)
  | disjunction => exact gives rfl (Value.fitsCell_ofExcept_map fun _ => trivial)
  | concatenate => exact gives rfl (Value.fitsCell_ofExcept_bind fun _ => trivial)
  | power => exact gives rfl (Value.fitsCell_ofExcept_map fun _ => trivial)
  | modulo => exact gives rfl (Value.fitsCell_ofNumber _)
  | negation =>
    exact gives rfl
      (Value.fitsCell_ofExcept_bind fun _ => Value.fitsCell_ofExcept_bind fun _ => trivial)
  | choose =>
    cases run
    exact Scalar.isGiven_choose (argument 1) (optional 2)
  | ifError =>
    cases run
    exact Scalar.isGiven_ifError (guarded rfl) (argument 1)
  | logicalTrue => exact gives rfl trivial
  | logicalFalse => exact gives rfl trivial
  | notAvailable => exact gives rfl trivial
  | date => exact gives rfl (DateFunction.fitsCell_date ctx _ _ _)
  | year => exact gives rfl (Value.fitsCell_ofNumber _)
  | month => exact gives rfl (Value.fitsCell_ofNumber _)
  | day => exact gives rfl (Value.fitsCell_ofNumber _)
  | daysBetween => exact gives rfl (Value.fitsCell_ofNumber _)
  | workingDays => exact gives rfl (Value.fitsCell_ofNumber _)
  | absolute => exact Context.isGiven_of_lift run fun _ => Value.fitsCell_ofNumber _
  | length =>
    exact Context.isGiven_of_lift run fun _ => Value.fitsCell_ofExcept_map fun _ => trivial
  | upper => exact Context.isGiven_of_lift run fun _ => Value.fitsCell_ofExcept_map fun _ => trivial
  | lower => exact Context.isGiven_of_lift run fun _ => Value.fitsCell_ofExcept_map fun _ => trivial
  | _ => exact Context.isGiven_of_lift run fun _ => trivial

end Spreadsheet
