/-! Operations that change a state in place. They check and change it step by step, so that there is
a state also after one that failed.
-/

namespace Spreadsheet

/-- An operation that changes a state and may fail on its way. -/
abbrev Mutation (ε σ : Type) := ExceptT ε (StateM σ)

namespace Mutation

variable {ε σ α : Type}

/-- What the operation comes to on a state, and the state that it leaves in either case. -/
def outcome (op : Mutation ε σ α) (state : σ) : Except ε α × σ :=
  op.run.run state

/-- The state after the operation, whether it succeeds or not. -/
def after (op : Mutation ε σ α) (state : σ) : σ :=
  (op.outcome state).2

/-- The state after the operation if it succeeds. -/
def result (op : Mutation ε σ α) (state : σ) : Except ε σ :=
  match op.outcome state with
  | (.ok _, after) => .ok after
  | (.error e, _) => .error e

end Mutation

end Spreadsheet
