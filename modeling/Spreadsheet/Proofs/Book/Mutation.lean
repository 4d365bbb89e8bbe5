import Spreadsheet.Book.Mutation

/-! Operations in place that make all their checks before the first change. If they fail they leave
the state as it was.
-/

namespace Spreadsheet.Mutation

variable {ε σ α β : Type} {op : Mutation ε σ α} {next : α → Mutation ε σ β} {state state' : σ}

-- Step by step

/-- A check does not change the state, and what comes next is left out if it fails. -/
theorem result_check_bind (check : Except ε α) (next : α → Mutation ε σ β) (state : σ)
    : ((liftM check : Mutation ε σ α) >>= next).result state
      = check >>= fun a => (next a).result state := by
  cases check <;> rfl

theorem result_get_bind (next : σ → Mutation ε σ β) (state : σ)
    : ((get : Mutation ε σ σ) >>= next).result state = (next state).result state :=
  rfl

/-- A change that follows a check is made if the check succeeds. -/
theorem result_check_modify_eq_ok {check : Except ε Unit} {change : σ → σ}
    : ((liftM check : Mutation ε σ Unit) >>= fun _ => modify change).result state = .ok state'
      ↔ check = .ok () ∧ state' = change state := by
  rw [result_check_bind]
  cases check with
  | error e => exact ⟨nofun, nofun⟩
  | ok => exact ⟨fun done => ⟨rfl, (Except.ok.inj done).symm⟩, fun ⟨_, same⟩ => same ▸ rfl⟩

theorem after_of_result (done : op.result state = .ok state') : op.after state = state' := by
  unfold result at done
  split at done
  · next left =>
    cases done
    rw [after, left]
  · cases done

-- Failures

/-- The operation changes nothing if it fails. -/
def Atomic (op : Mutation ε σ α) : Prop :=
  ∀ state e, op.result state = .error e → op.after state = state

/-- A change does not fail. -/
theorem atomic_modify (change : σ → σ) : Atomic (modify change : Mutation ε σ PUnit) :=
  fun _ _ failed => nomatch failed

/-- A check comes before all changes. -/
theorem atomic_check_bind (check : Except ε α) (atomic : ∀ a, (next a).Atomic)
    : Atomic ((liftM check : Mutation ε σ α) >>= next) := by
  intro state e failed
  cases check with
  | error cause => rfl
  | ok a => exact atomic a state e failed

theorem atomic_get_bind {next : σ → Mutation ε σ β} (atomic : ∀ seen, (next seen).Atomic)
    : Atomic ((get : Mutation ε σ σ) >>= next) :=
  fun state e failed => atomic state state e failed

end Spreadsheet.Mutation
