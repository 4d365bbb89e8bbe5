/-! When a computation that may fail gives a result. -/

namespace Spreadsheet

variable {ε α β γ δ : Type}

/-- A sequence of two steps succeeds if both do. -/
theorem except_bind_eq_ok {x : Except ε α} {f : α → Except ε β} {b : β}
    : x >>= f = .ok b ↔ ∃ a, x = .ok a ∧ f a = .ok b := by
  cases x with
  | error e => simp [bind, Except.bind]
  | ok a => simp [bind, Except.bind]

theorem except_map_eq_ok {x : Except ε α} {f : α → β} {b : β}
    : x.map f = .ok b ↔ ∃ a, x = .ok a ∧ f a = b := by
  cases x with
  | error e => simp [Except.map]
  | ok a => simp [Except.map]

theorem except_mapError_eq_ok {ε' : Type} {x : Except ε α} {f : ε → ε'} {a : α}
    : x.mapError f = .ok a ↔ x = .ok a := by
  cases x with
  | error e =>
    constructor
    · intro h
      cases h
    · intro h
      cases h
  | ok b =>
    constructor
    · intro h
      cases h
      rfl
    · intro h
      cases h
      rfl

/-- A run over a list succeeds if its first step does and so does the run over the rest. -/
theorem mapM_cons_eq_ok {f : α → Except ε β} {x : α} {xs : List α} {ys : List β}
    : (x :: xs).mapM f = .ok ys
      ↔ ∃ y rest, f x = .ok y ∧ xs.mapM f = .ok rest ∧ ys = y :: rest := by
  rw [List.mapM_cons, except_bind_eq_ok]
  constructor
  · rintro ⟨y, first, run⟩
    obtain ⟨rest, others, same⟩ := except_bind_eq_ok.mp run
    exact ⟨y, rest, first, others, (Except.ok.inj same).symm⟩
  · rintro ⟨y, rest, first, others, rfl⟩
    exact ⟨y, first, except_bind_eq_ok.mpr ⟨rest, others, rfl⟩⟩

/-- A run over a list succeeds if every step does, by induction on the list. -/
theorem mapM_eq_ok_of_forall {f : α → Except ε β} {P : β → Prop} (xs : List α)
    (h : ∀ x ∈ xs, ∃ y, f x = .ok y ∧ P y)
    : ∃ ys, xs.mapM f = .ok ys ∧ ys.length = xs.length ∧ ∀ y ∈ ys, P y := by
  induction xs with
  | nil => exact ⟨[], rfl, rfl, by simp⟩
  | cons x xs ih =>
    simp only [List.mem_cons, forall_eq_or_imp] at h
    obtain ⟨⟨y, first, holds⟩, rest⟩ := h
    obtain ⟨ys, others, length, all⟩ := ih rest
    refine ⟨y :: ys, mapM_cons_eq_ok.mpr ⟨y, ys, first, others, rfl⟩, by simp [length], ?_⟩
    simp only [List.mem_cons, forall_eq_or_imp]
    exact ⟨holds, all⟩

/-- What holds of the result of every step holds of all results, by induction on the list. -/
theorem forall_of_mapM_eq_ok {f : α → Except ε β} {P : β → Prop} {xs : List α} {ys : List β}
    (run : xs.mapM f = .ok ys) (each : ∀ x ∈ xs, ∀ y, f x = .ok y → P y)
    : ys.length = xs.length ∧ ∀ y ∈ ys, P y := by
  induction xs generalizing ys with
  | nil =>
    cases run
    exact ⟨rfl, by simp⟩
  | cons x xs ih =>
    simp only [List.mem_cons, forall_eq_or_imp] at each
    obtain ⟨y, others, first, rest, rfl⟩ := mapM_cons_eq_ok.mp run
    obtain ⟨length, all⟩ := ih rest each.2
    simp only [List.length_cons, length, List.mem_cons, forall_eq_or_imp, true_and]
    exact ⟨each.1 y first, all⟩

/-- A run over a list whose steps have known results, by induction on the list. -/
theorem mapM_eq_ok_map {f : α → Except ε β} {g : α → β} (xs : List α)
    (h : ∀ x ∈ xs, f x = .ok (g x))
    : xs.mapM f = .ok (xs.map g) := by
  induction xs with
  | nil => rfl
  | cons x xs ih =>
    simp only [List.mem_cons, forall_eq_or_imp] at h
    rw [List.mapM_cons, h.1, ih h.2]
    rfl

/-- Elements with a known result can be left out of a run over a list: it fails with the same error,
and only that result may be missing. By induction on the list.
-/
theorem mapM_filter_cases {f : α → Except ε β} {p : α → Bool} {y : β}
    (left : ∀ x, p x = false → f x = .ok y) (xs : List α)
    : (∃ e, xs.mapM f = .error e ∧ (xs.filter p).mapM f = .error e)
      ∨ ∃ ys zs, xs.mapM f = .ok ys ∧ (xs.filter p).mapM f = .ok zs
        ∧ ∀ z, z ∈ ys ↔ z ∈ zs ∨ z = y ∧ ∃ x ∈ xs, p x = false := by
  induction xs with
  | nil => exact .inr ⟨[], [], rfl, rfl, by simp⟩
  | cons x xs ih =>
    rw [List.mapM_cons]
    cases keeps : p x with
    | false =>
      rw [List.filter_cons_of_neg (by simp [keeps]), left x keeps]
      rcases ih with ⟨e, all, kept⟩ | ⟨ys, zs, all, kept, members⟩
      · exact .inl ⟨e, by rw [all]; rfl, kept⟩
      · refine .inr ⟨y :: ys, zs, by rw [all]; rfl, kept, fun z => ?_⟩
        simp only [List.mem_cons, members z, exists_eq_or_imp, keeps, true_or, and_true]
        grind
    | true =>
      rw [List.filter_cons_of_pos keeps, List.mapM_cons]
      cases first : f x with
      | error e => exact .inl ⟨e, rfl, rfl⟩
      | ok z =>
        rcases ih with ⟨e, all, kept⟩ | ⟨ys, zs, all, kept, members⟩
        · exact .inl ⟨e, by rw [all]; rfl, by rw [kept]; rfl⟩
        · refine .inr ⟨z :: ys, z :: zs, by rw [all]; rfl, by rw [kept]; rfl, fun z' => ?_⟩
          simp only [List.mem_cons, members z', exists_eq_or_imp, keeps, Bool.true_eq_false,
            false_or]
          grind

-- Runs of any kind

section

variable {m : Type → Type} [Monad m] [LawfulMonad m]

/-- A run over a list goes the same way if every step does, by induction on the list. -/
theorem mapM_congr {f g : α → m β} {xs : List α} (h : ∀ x ∈ xs, f x = g x)
    : xs.mapM f = xs.mapM g := by
  induction xs with
  | nil => rfl
  | cons x xs ih =>
    simp only [List.mem_cons, forall_eq_or_imp] at h
    rw [List.mapM_cons, List.mapM_cons, h.1, ih h.2]

/-- What comes after a run over a list only has to deal with as many results as there are elements,
by induction on the list.
-/
theorem mapM_bind_congr {f : α → m β} {xs : List α} {next next' : List β → m γ}
    (same : ∀ ys, ys.length = xs.length → next ys = next' ys)
    : xs.mapM f >>= next = xs.mapM f >>= next' := by
  induction xs generalizing next next' with
  | nil => rw [List.mapM_nil, pure_bind, pure_bind, same [] rfl]
  | cons x xs ih =>
    simp only [List.mapM_cons, bind_assoc, pure_bind]
    exact bind_congr fun y => ih fun ys length => same (y :: ys) (congrArg Nat.succ length)

/-- A run over the rows of a table is one over its cells row by row, as long as what comes after it
only looks at the cells; by induction on the rows.
-/
theorem mapM_mapM_bind {f : α → δ → m β} {xs : List α} {zs : List δ} {next : List (List β) → m γ}
    {next' : List β → m γ}
    (same : ∀ table, table.length = xs.length → (∀ row ∈ table, row.length = zs.length) →
      next table = next' table.flatten)
    : (xs.mapM fun x => zs.mapM (f x)) >>= next
      = ((xs.flatMap fun x => zs.map fun z => (x, z)).mapM fun p => f p.1 p.2) >>= next' := by
  induction xs generalizing next next' with
  | nil =>
    rw [List.mapM_nil, List.flatMap_nil, List.mapM_nil, pure_bind, pure_bind]
    exact same [] rfl fun row mem => nomatch mem
  | cons x xs ih =>
    rw [List.flatMap_cons, List.mapM_append, List.mapM_map]
    simp only [List.mapM_cons, bind_assoc, pure_bind]
    refine mapM_bind_congr fun row length => ih fun table height even => ?_
    exact same (row :: table) (congrArg Nat.succ height)
      (List.forall_mem_cons.mpr ⟨length, even⟩)

end

end Spreadsheet
