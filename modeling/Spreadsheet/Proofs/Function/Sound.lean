import Spreadsheet.Proofs.Value.Broadcast
import Spreadsheet.Function.Catalog

/-! What functions do with their arguments. If these are sound, a function always gives a value,
and a sound one.
-/

namespace Spreadsheet

theorem Value.isPlain_ofNumber (x : Except CellError Float) : (Value.ofNumber x).IsPlain := by
  cases x with
  | error e => trivial
  | ok x =>
    unfold Value.ofNumber
    dsimp only
    split
    · next finite => exact Number.not_isNaN_of_isFinite finite
    · trivial

/-- A truth value, a text, or an error in its place. -/
theorem Value.isPlain_ofExcept_map {α : Type} {x : Except CellError α} {f : α → Value}
    (h : ∀ a, (f a).IsPlain)
    : (Value.ofExcept (x.map f)).IsPlain := by
  refine Value.isPlain_ofExcept fun value read => ?_
  obtain ⟨a, _, rfl⟩ := except_map_eq_ok.mp read
  exact h a

theorem Context.exists_lift {ctx : Context} {argument : Value} {f : Value → Value}
    (inGrid : ctx.here.InGrid) (h : argument.Sound) (plain : ∀ x, (f x).IsPlain)
    : ∃ value, ctx.lift argument f = .ok value ∧ value.Sound := by
  unfold Context.lift
  split
  · exact Broadcast.exists_lift₁ inGrid h fun x _ => ⟨f x, rfl, plain x⟩
  · exact ⟨_, rfl, (plain _).sound⟩

namespace Scalar

theorem isPlain_length (value : Value) : (length value).IsPlain :=
  Value.isPlain_ofExcept_map fun text => Number.not_isNaN_ofNat text.length

theorem isPlain_upper (value : Value) : (upper value).IsPlain :=
  Value.isPlain_ofExcept_map fun _ => trivial

theorem isPlain_lower (value : Value) : (lower value).IsPlain :=
  Value.isPlain_ofExcept_map fun _ => trivial

theorem isPlain_negation (ctx : Context) (argument : Value) : (negation ctx argument).IsPlain := by
  refine Value.isPlain_ofExcept fun value read => ?_
  obtain ⟨_, _, read⟩ := except_bind_eq_ok.mp read
  obtain ⟨_, _, read⟩ := except_bind_eq_ok.mp read
  cases read
  trivial

variable {ctx : Context} {value : Value}

/-- What is passed on is a scalar if nothing was given, and else what was given. -/
theorem passedOn_cases {arguments : List Value} (given : value = .missing ∨ value ∈ arguments)
    : (passedOn value).IsPlain ∨ passedOn value ∈ arguments := by
  unfold passedOn
  split
  · exact .inl trivial
  · next notMissing => exact .inr (given.resolve_left notMissing)

theorem choose_cases {condition yes : Value} {no : Option Value} {arguments : List Value}
    (givenYes : yes = .missing ∨ yes ∈ arguments) (givenNo : ∀ value ∈ no, value ∈ arguments)
    : (choose ctx condition yes no).IsPlain ∨ choose ctx condition yes no ∈ arguments := by
  have result {x : Except CellError Value}
      (h : ∀ value, x = .ok value → value.IsPlain ∨ value ∈ arguments)
      : (Value.ofExcept x).IsPlain ∨ Value.ofExcept x ∈ arguments := by
    cases x with
    | error e => exact .inl trivial
    | ok value => exact h value rfl
  refine result fun value read => ?_
  obtain ⟨_, _, read⟩ := except_bind_eq_ok.mp read
  obtain ⟨holds, _, read⟩ := except_bind_eq_ok.mp read
  split at read
  · cases read
    exact passedOn_cases givenYes
  · split at read
    · cases read
      exact passedOn_cases (.inr (givenNo _ rfl))
    · cases read
      exact .inl trivial

theorem ifError_cases {argument fallback : Value} {arguments : List Value}
    (given : argument = .missing ∨ argument ∈ arguments)
    (given' : fallback = .missing ∨ fallback ∈ arguments)
    : (ifError ctx argument fallback).IsPlain ∨ ifError ctx argument fallback ∈ arguments := by
  unfold ifError
  split
  · rcases given with rfl | mem
    · exact .inl trivial
    · exact .inr mem
  · exact passedOn_cases given'

end Scalar

theorem Aggregate.isPlain_concatenate (ctx : Context) (arguments : List Value)
    : (concatenate ctx arguments).IsPlain := by
  refine Value.isPlain_ofExcept fun value read => ?_
  obtain ⟨_, _, read⟩ := except_bind_eq_ok.mp read
  cases read
  trivial

theorem DateFunction.isPlain_date (ctx : Context) (year month day : Value)
    : (date ctx year month day).IsPlain := by
  refine Value.isPlain_ofExcept fun value read => ?_
  obtain ⟨_, _, read⟩ := except_bind_eq_ok.mp read
  obtain ⟨_, _, read⟩ := except_bind_eq_ok.mp read
  obtain ⟨_, _, read⟩ := except_bind_eq_ok.mp read
  split at read
  · next serial _ =>
    cases read
    exact Number.not_isNaN_ofInt serial
  · cases read

/-- The context of an array formula, or that of an ordinary one, in the same place. -/
def Context.inMode (ctx : Context) (arrayMode : Bool) : Context :=
  { ctx with arrayMode }

/-- What a function does with its arguments, in either mode: it applies a function of one scalar to
one of them, or gives a scalar, or passes one of them on.
-/
inductive Function.Acts (f : Function) (ctx : Context) (arguments : List Value) : Prop
  | lifts (g : Value → Value) (argument : Value)
    (run : ∀ mode, f.apply (ctx.inMode mode) arguments = (ctx.inMode mode).lift argument g)
    (given : argument = .missing ∨ argument ∈ arguments) (plain : ∀ x, (g x).IsPlain)
  | gives (value : Value) (run : f.apply ctx arguments = .ok value) (plain : value.IsPlain)
    (anyMode : ∀ mode, f.apply (ctx.inMode mode) arguments = f.apply ctx arguments)
  | passesOn (value : Value) (run : f.apply ctx arguments = .ok value) (given : value ∈ arguments)
    (anyMode : ∀ mode, f.apply (ctx.inMode mode) arguments = f.apply ctx arguments)

/-- Every function acts in one of these ways, case by case. -/
theorem Function.acts (f : Function) (ctx : Context) (arguments : List Value)
    : f.Acts ctx arguments := by
  have given (index : Nat)
      : (arguments[index]?).getD .missing = .missing
        ∨ (arguments[index]?).getD .missing ∈ arguments := by
    cases found : arguments[index]? with
    | none => exact .inl rfl
    | some value => exact .inr (List.mem_of_getElem? found)
  have acts {value : Value} (run : f.apply ctx arguments = .ok value)
      (result : value.IsPlain ∨ value ∈ arguments)
      (anyMode : ∀ mode, f.apply (ctx.inMode mode) arguments = f.apply ctx arguments)
      : f.Acts ctx arguments := by
    rcases result with plain | given
    · exact .gives value run plain anyMode
    · exact .passesOn value run given anyMode
  cases f with
  | sum => exact .gives _ rfl (Value.isPlain_ofNumber _) fun _ => rfl
  | product => exact .gives _ rfl (Value.isPlain_ofNumber _) fun _ => rfl
  | conjunction => exact .gives _ rfl (Value.isPlain_ofExcept_map fun _ => trivial) fun _ => rfl
  | disjunction => exact .gives _ rfl (Value.isPlain_ofExcept_map fun _ => trivial) fun _ => rfl
  | concatenate => exact .gives _ rfl (Aggregate.isPlain_concatenate ctx arguments) fun _ => rfl
  | absolute => exact .lifts _ _ (fun _ => rfl) (given 0) fun _ => Value.isPlain_ofNumber _
  | length => exact .lifts _ _ (fun _ => rfl) (given 0) Scalar.isPlain_length
  | upper => exact .lifts _ _ (fun _ => rfl) (given 0) Scalar.isPlain_upper
  | lower => exact .lifts _ _ (fun _ => rfl) (given 0) Scalar.isPlain_lower
  | power => exact .gives _ rfl (Arithmetic.isPlain_evaluate .power) fun _ => rfl
  | modulo => exact .gives _ rfl (Value.isPlain_ofNumber _) fun _ => rfl
  | negation => exact .gives _ rfl (Scalar.isPlain_negation ctx _) fun _ => rfl
  | choose =>
    exact acts rfl (Scalar.choose_cases (given 1) fun _ => List.mem_of_getElem?) fun _ => rfl
  | ifError => exact acts rfl (Scalar.ifError_cases (given 0) (given 1)) fun _ => rfl
  | logicalTrue => exact .gives _ rfl trivial fun _ => rfl
  | logicalFalse => exact .gives _ rfl trivial fun _ => rfl
  | notAvailable => exact .gives _ rfl trivial fun _ => rfl
  | date => exact .gives _ rfl (DateFunction.isPlain_date ctx _ _ _) fun _ => rfl
  | year => exact .gives _ rfl (Value.isPlain_ofNumber _) fun _ => rfl
  | month => exact .gives _ rfl (Value.isPlain_ofNumber _) fun _ => rfl
  | day => exact .gives _ rfl (Value.isPlain_ofNumber _) fun _ => rfl
  | daysBetween => exact .gives _ rfl (Value.isPlain_ofNumber _) fun _ => rfl
  | workingDays => exact .gives _ rfl (Value.isPlain_ofNumber _) fun _ => rfl
  | _ => exact .lifts _ _ (fun _ => rfl) (given 0) fun _ => trivial

/-- Every function gives a sound value for sound arguments. -/
theorem Function.exists_apply (f : Function) {ctx : Context} {arguments : List Value}
    (inGrid : ctx.here.InGrid) (sound : ∀ argument ∈ arguments, argument.Sound)
    : ∃ value, f.apply ctx arguments = .ok value ∧ value.Sound := by
  cases f.acts ctx arguments with
  | lifts g argument run given plain =>
    rw [show f.apply ctx arguments = ctx.lift argument g from run ctx.arrayMode]
    refine Context.exists_lift inGrid ?_ plain
    rcases given with rfl | mem
    · trivial
    · exact sound argument mem
  | gives value run plain _ => exact ⟨value, run, plain.sound⟩
  | passesOn value run given _ => exact ⟨value, run, sound value given⟩

end Spreadsheet
