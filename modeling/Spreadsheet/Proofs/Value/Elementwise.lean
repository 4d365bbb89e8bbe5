import Spreadsheet.Proofs.Value.Pointwise
import Spreadsheet.Proofs.Value.Stored

/-! Lifted operations go through the cells of their result row by row. What a cell takes from an
argument is found by its offset alone: an argument that is only one row high, or one column wide,
repeats in that direction.
-/

namespace Spreadsheet

-- What the cells of a result take from an argument

/-- The area has scalars only, in columns that can be counted. -/
structure Area.OfScalars (a : Area Value) : Prop where
  tall : 0 < a.height
  wide : 0 < a.width
  narrow : a.width < columnLimit
  cells : ∀ value ∈ a.cells, value.isScalar

namespace Value

/-- The value is an area of scalars if it is an area at all. -/
def OfScalars : Value → Prop
  | area a => a.OfScalars
  | _ => True

/-- A value of one cell by itself. -/
def shown : Value → Except CellError Value
  | error e => .error e
  | value => .ok value

/-- What an argument contributes to the cell at an offset: an area that is one row high is read in
this row, and an area that is one column wide in this column.
-/
def clamped (row col : Nat) : Value → Except CellError Value
  | union _ => .error .value
  | area a =>
    match a.relative? (if 1 < a.height then row else 0) (if 1 < a.width then col else 0) with
    | some value => value.shown
    | none => .error .value
  | value => value.shown

theorem resolve_eq_shown {here : Position} {value : Value} (scalar : value.isScalar)
    : value.resolve here = value.shown := by
  cases value with
  | area a => cases scalar
  | union areas => cases scalar
  | _ => simp [resolve, shown]

end Value

namespace Area

variable {a : Area Value}

theorem absolute?_add (a : Area Value) (row col : Nat)
    : a.absolute? ⟨a.origin.row + row, a.origin.col + col⟩ = a.relative? row col := by
  by_cases inside : row < a.height ∧ col < a.width
  · exact absolute?_offset inside.1 inside.2
  · simp only [absolute?, Nat.add_sub_cancel_left, relative?_of_outside inside, ite_self]

/-- Seen from an offset, a single row or column is read at its own place. -/
theorem intersect?_add (tall : 0 < a.height) (wide : 0 < a.width) (row col : Nat)
    : a.intersect? ⟨a.origin.row + row, a.origin.col + col⟩
      = a.relative? (if 1 < a.height then row else 0) (if 1 < a.width then col else 0) := by
  have rowSeen : (if a.isRow then a.origin.row else a.origin.row + row)
      = a.origin.row + if 1 < a.height then row else 0 := by
    simp only [isRow, beq_iff_eq]
    split <;> split <;> omega
  have colSeen : (if a.isColumn then a.origin.col else a.origin.col + col)
      = a.origin.col + if 1 < a.width then col else 0 := by
    simp only [isColumn, beq_iff_eq]
    split <;> split <;> omega
  rw [intersect?, rowSeen, colSeen, absolute?_add]

theorem OfScalars.isScalar {row col : Nat} {value : Value} (h : a.OfScalars)
    (found : a.relative? row col = some value)
    : value.isScalar := by
  unfold relative? at found
  split at found
  · cases found
    rcases a.getD_stored?_cases row col with blank | stored
    · rw [blank]
      rfl
    · exact h.cells _ stored
  · cases found

end Area

/-- What is seen of an argument at an offset from its corner is found by the offset alone. -/
theorem Value.seenAt_eq_clamped {here : Position} {value : Value} {height width row col : Nat}
    (h : value.OfScalars) (room : Area.Fits (value.extent here).origin height width)
    (inRow : row < height) (inCol : col < width)
    : value.seenAt here row col = value.clamped row col := by
  have lastRow := room.lastRow
  have lastCol := room.lastCol
  rw [seenAt_of_lt rfl (by omega) (by omega)]
  cases value with
  | area a =>
    change (area a).resolve ⟨a.origin.row + row, a.origin.col + col⟩ = _
    rw [resolve_area, Area.intersect?_add h.tall h.wide, clamped]
    cases found : a.relative? (if 1 < a.height then row else 0) (if 1 < a.width then col else 0)
      with
    | some value => exact resolve_eq_shown (h.isScalar found)
    | none => rfl
  | union areas => simp [resolve, clamped]
  | _ => exact resolve_eq_shown rfl

namespace Broadcast

/-- The offsets of the cells of a grid, row by row. -/
def offsets (height width : Nat) : List (Nat × Nat) :=
  (List.range height).flatMap fun row => (List.range width).map fun col => (row, col)

/-- What the cells of a result take from two arguments, the error of the left one first. -/
def cells₂ (left right : Value) (height width : Nat) : List (Except CellError (Value × Value)) :=
  (offsets height width).map fun offset => do
    let x ← left.clamped offset.1 offset.2
    let y ← right.clamped offset.1 offset.2
    return (x, y)

/-- What the cells of a result take from one argument, errors included. -/
def cells₁ (argument : Value) (height width : Nat) : List (Except CellError Value) :=
  (offsets height width).map fun offset =>
    .ok (.ofExcept (argument.clamped offset.1 offset.2))

/-- The values of all cells as a result: the value of the only cell, or an area. -/
def assemble (here : Position) (height width : Nat) (values : List Value) : Value :=
  if height = 1 ∧ width = 1 then values.head?.getD .blank
  else .area ⟨here, height, width, 0, 0, height, width, values.toArray⟩

section

variable {α : Type} {m : Type → Type} [Monad m]

/-- The value of a cell: an error that is there already, or what the function gives. -/
def compute (f : α → m Value) : Except CellError α → m Value
  | .error e => return .error e
  | .ok x => f x

end

section

variable {α : Type}

/-- A function whose calls are written to a log, each of them before it is made. -/
def recorded (f : α → Except OperationError Value) (x : α)
    : ExceptT OperationError (StateM (List α)) Value := do
  modify (· ++ [x])
  ExceptT.mk (pure (f x))

/-- What the function is called for, in the order of the cells. -/
def calls (cells : List (Except CellError α)) : List α :=
  cells.filterMap Except.toOption

/-- What a run over the cells comes to and which calls it makes: it finishes with a value for each
of them, or stops at the first call that fails.
-/
inductive Ran (f : α → Except OperationError Value) (cells : List (Except CellError α))
    : Except OperationError (List Value) → List α → Prop
  | finished {values : List Value}
    (computed : List.Forall₂ (fun cell value => compute f cell = .ok value) cells values)
    : Ran f cells (.ok values) (calls cells)
  | stopped {before after : List α} {x : α} {e : OperationError}
    (order : calls cells = before ++ x :: after)
    (succeeded : ∀ y ∈ before, ∃ value, f y = .ok value) (failed : f x = .error e)
    : Ran f cells (.error e) (before ++ [x])

variable {f : α → Except OperationError Value} {cell : Except CellError α}
  {cells : List (Except CellError α)} {outcome : Except OperationError (List Value)}
  {made log : List α}

theorem Ran.cons_error {e : CellError} (h : Ran f cells outcome made)
    : Ran f (.error e :: cells) (outcome.map (.error e :: ·)) made := by
  cases h with
  | finished computed => exact .finished (.cons rfl computed)
  | stopped order succeeded failed => exact .stopped order succeeded failed

theorem Ran.cons_ok {x : α} {value : Value} (computed : f x = .ok value)
    (h : Ran f cells outcome made)
    : Ran f (.ok x :: cells) (outcome.map (value :: ·)) (x :: made) := by
  cases h with
  | finished others => exact .finished (.cons computed others)
  | @stopped before after y e order succeeded failed =>
    have order' : calls (.ok x :: cells) = (x :: before) ++ y :: after :=
      congrArg (x :: ·) order
    exact .stopped order' (List.forall_mem_cons.mpr ⟨⟨value, computed⟩, succeeded⟩) failed

/-- A step that succeeds hands its result and its log on. -/
theorem run_bind_ok {β γ : Type} {step : ExceptT OperationError (StateM (List α)) β}
    {next : β → ExceptT OperationError (StateM (List α)) γ} {log' : List α} {y : β}
    (ran : step.run.run log = (.ok y, log'))
    : (step >>= next).run.run log = (next y).run.run log' := by
  rw [ExceptT.run_bind, StateT.run_bind, ran]
  rfl

/-- A run over the cells calls the function for each of them that is not an error, in their order,
up to the first call that fails; by induction on the cells.
-/
theorem exists_run_recorded (f : α → Except OperationError Value)
    (cells : List (Except CellError α)) (log : List α)
    : ∃ outcome made, (cells.mapM (compute (recorded f))).run.run log = (outcome, log ++ made)
      ∧ Ran f cells outcome made := by
  induction cells generalizing log with
  | nil => exact ⟨.ok [], [], by rw [List.append_nil]; rfl, .finished .nil⟩
  | cons cell cells ih =>
    have others {value : Value} {outcome : Except OperationError (List Value)} {log log' : List α}
        (run : (cells.mapM (compute (recorded f))).run.run log = (outcome, log'))
        : (cells.mapM (compute (recorded f)) >>= fun values => pure (value :: values)).run.run log
          = (outcome.map (value :: ·), log') := by
      rw [ExceptT.run_bind, StateT.run_bind, run]
      cases outcome with
      | error e => rfl
      | ok values => rfl
    rw [List.mapM_cons]
    cases cell with
    | error e =>
      obtain ⟨outcome, made, run, ran⟩ := ih log
      exact ⟨_, made, (run_bind_ok rfl).trans (others run), ran.cons_error⟩
    | ok x =>
      have called : (recorded f x).run.run log = (f x, log ++ [x]) := rfl
      cases computed : f x with
      | error e =>
        rw [computed] at called
        have order : calls (.ok x :: cells) = [] ++ x :: calls cells := rfl
        refine ⟨.error e, [x], ?_, .stopped order (fun y mem => nomatch mem) computed⟩
        rw [ExceptT.run_bind, StateT.run_bind, compute, called]
        rfl
      | ok value =>
        rw [computed] at called
        obtain ⟨outcome, made, run, ran⟩ := ih (log ++ [x])
        rw [List.append_assoc] at run
        exact ⟨_, x :: made, (run_bind_ok called).trans (others run), ran.cons_ok computed⟩

end

section

variable {m : Type → Type} [Monad m] [LawfulMonad m] [MonadExceptOf OperationError m]
  {here : Position} {height width : Nat}

theorem mem_offsets {offset : Nat × Nat}
    : offset ∈ offsets height width ↔ offset.1 < height ∧ offset.2 < width := by
  obtain ⟨row, col⟩ := offset
  simp only [offsets, List.mem_flatMap, List.mem_map, List.mem_range, Prod.mk.injEq]
  constructor
  · rintro ⟨_, inRow, _, inCol, rfl, rfl⟩
    exact ⟨inRow, inCol⟩
  · rintro ⟨inRow, inCol⟩
    exact ⟨row, inRow, col, inCol, rfl, rfl⟩

/-- The cells of a result are computed row by row, and then assembled. -/
theorem collect_eq (room : Area.Fits here height width) (narrow : width < columnLimit)
    (few : height * width ≤ Value.maxCells) (cell : Nat → Nat → m Value)
    : collect here height width cell
      = assemble here height width
          <$> (offsets height width).mapM fun offset => cell offset.1 offset.2 := by
  by_cases one : height = 1 ∧ width = 1
  · obtain ⟨rfl, rfl⟩ := one
    have only : offsets 1 1 = [(0, 0)] := rfl
    simp [collect, only, assemble]
  · have several : ¬(height = 1 && width = 1) = true := by simpa using one
    rw [collect, if_neg several, if_neg (Nat.not_lt.mpr few), map_eq_pure_bind]
    refine mapM_mapM_bind fun rows length even => ?_
    rw [List.length_range] at length
    simp only [List.length_range] at even
    subst length
    have tall : rows.length < rowLimit := by
      have wide := Nat.le_mul_of_pos_right rows.length room.wide
      simp only [Value.maxCells] at few
      simp only [rowLimit]
      omega
    have built : Area.ofRows here rows = .ok (.dense here rows width) :=
      Area.ofRows_eq_ok.mpr ⟨width, even, tall, narrow, room, rfl⟩
    rw [built, assemble, if_neg one]
    rfl

/-- The same if each cell is computed from what it takes from the arguments. -/
theorem collect_eq_compute {α : Type} {f : α → m Value} {cell : Nat → Nat → m Value}
    (takes : Nat × Nat → Except CellError α) (room : Area.Fits here height width)
    (narrow : width < columnLimit) (few : height * width ≤ Value.maxCells)
    (same : ∀ row < height, ∀ col < width, cell row col = compute f (takes (row, col)))
    : collect here height width cell
      = assemble here height width <$> ((offsets height width).map takes).mapM (compute f) := by
  rw [collect_eq room narrow few, List.mapM_map]
  refine congrArg _ (mapM_congr fun offset mem => ?_)
  obtain ⟨inRow, inCol⟩ := mem_offsets.mp mem
  exact same offset.1 inRow offset.2 inCol

end

-- Lifted operations

/-- There is room for the cells of a result behind the current cell, and behind the corner of each
argument.
-/
structure Room (here : Position) (arguments : List Value) (height width : Nat) : Prop where
  result : Area.Fits here height width
  argument : ∀ value ∈ arguments, Area.Fits (value.extent here).origin height width

/-- A lifted operation goes through the cells of its result, row by row. Too many cells are
refused before the function is called at all. Otherwise the result is assembled from what is
computed for the cells, in any kind of run; and the calls that are recorded in such a run are all
there are.
-/
structure Elementwise {α : Type} (here : Position) (arguments : List Value) (height width : Nat)
    (cells : List (Except CellError α))
    (lift : ∀ {m : Type → Type} [Monad m] [MonadExceptOf OperationError m],
      (α → m Value) → m Value) : Prop where
  refused : Value.maxCells < height * width →
    ∀ {m : Type → Type} [Monad m] [MonadExceptOf OperationError m] (f : α → m Value),
      lift f = pure (.error .num)
  computed : Room here arguments height width → height * width ≤ Value.maxCells →
    ∀ {m : Type → Type} [Monad m] [LawfulMonad m] [MonadExceptOf OperationError m]
      (f : α → m Value),
      lift f = assemble here height width <$> cells.mapM (compute f)
  recorded : Room here arguments height width → height * width ≤ Value.maxCells →
    ∀ f : α → Except OperationError Value,
      ∃ outcome made,
        (lift (recorded f)).run.run [] = (outcome.map (assemble here height width), made)
          ∧ Ran f cells outcome made

theorem recorded_of_computed {α : Type} {here : Position} {height width : Nat}
    {cells : List (Except CellError α)} {f : α → Except OperationError Value}
    {lifted : ExceptT OperationError (StateM (List α)) Value}
    (computed : lifted = assemble here height width <$> cells.mapM (compute (recorded f)))
    : ∃ outcome made,
      lifted.run.run [] = (outcome.map (assemble here height width), made)
        ∧ Ran f cells outcome made := by
  obtain ⟨outcome, made, run, ran⟩ := exists_run_recorded f cells []
  refine ⟨outcome, made, ?_, ran⟩
  rw [computed, ExceptT.run_map, StateT.run_map, run]
  rfl

variable {here : Position} {left right argument : Value}

theorem collect_of_maxCells_lt {m : Type → Type} [Monad m] [MonadExceptOf OperationError m]
    {height width : Nat} (many : Value.maxCells < height * width) (cell : Nat → Nat → m Value)
    : collect here height width cell = pure (.error .num) := by
  have several : ¬(height = 1 && width = 1) = true := by
    simp only [Bool.and_eq_true, decide_eq_true_eq]
    rintro ⟨rfl, rfl⟩
    exact absurd many (by decide)
  rw [collect, if_neg several, if_pos many]

theorem width_lt {value : Value} (h : value.OfScalars)
    : (value.extent here).width < columnLimit := by
  have narrow : 1 < columnLimit := by decide
  cases value with
  | area a => exact h.narrow
  | _ => exact narrow

/-- Every cell that two arguments contribute to is computed from what they contribute. -/
theorem lift₂_eq {height width : Nat} (hl : left.OfScalars) (hr : right.OfScalars)
    (tall : height = max (left.extent here).height (right.extent here).height)
    (wide : width = max (left.extent here).width (right.extent here).width)
    (room : Room here [left, right] height width) (few : height * width ≤ Value.maxCells)
    {m : Type → Type} [Monad m] [LawfulMonad m] [MonadExceptOf OperationError m]
    (f : Value × Value → m Value)
    : lift₂ here left right (fun x y => f (x, y))
      = assemble here height width <$> (cells₂ left right height width).mapM (compute f) := by
  have narrow : width < columnLimit := wide ▸ Nat.max_lt.mpr ⟨width_lt hl, width_lt hr⟩
  unfold lift₂
  dsimp only
  rw [← tall, ← wide]
  refine collect_eq_compute _ room.result narrow few fun row inRow col inCol => ?_
  rw [Value.seenAt_eq_clamped hl (room.argument left (by simp)) inRow inCol,
    Value.seenAt_eq_clamped hr (room.argument right (by simp)) inRow inCol]
  cases left.clamped row col with
  | error e => rfl
  | ok x =>
    cases right.clamped row col with
    | error e => rfl
    | ok y => rfl

theorem lift₁_eq {height width : Nat} (h : argument.OfScalars)
    (tall : height = (argument.extent here).height) (wide : width = (argument.extent here).width)
    (room : Room here [argument] height width) (few : height * width ≤ Value.maxCells)
    {m : Type → Type} [Monad m] [LawfulMonad m] [MonadExceptOf OperationError m]
    (f : Value → m Value)
    : lift₁ here argument f
      = assemble here height width <$> (cells₁ argument height width).mapM (compute f) := by
  have narrow : width < columnLimit := wide ▸ width_lt h
  unfold lift₁
  dsimp only
  rw [← tall, ← wide]
  refine collect_eq_compute _ room.result narrow few fun row inRow col inCol => ?_
  rw [Value.seenAt_eq_clamped h (room.argument argument (by simp)) inRow inCol]
  rfl

/-- Operations on two arguments and on one are lifted cell by cell. The result is as tall as the
tallest argument and as wide as the widest, and what its cells take from the arguments is found by
their offsets alone.
-/
theorem lifts_elementwise (here : Position)
    : (∀ left right : Value, left.OfScalars → right.OfScalars →
        let height := max (left.extent here).height (right.extent here).height
        let width := max (left.extent here).width (right.extent here).width
        Elementwise here [left, right] height width (cells₂ left right height width)
          fun f => lift₂ here left right fun x y => f (x, y))
      ∧ ∀ argument : Value, argument.OfScalars →
        let height := (argument.extent here).height
        let width := (argument.extent here).width
        Elementwise here [argument] height width (cells₁ argument height width)
          fun f => lift₁ here argument f := by
  constructor
  · intro left right hl hr height width
    exact {
      refused many m _ _ f := collect_of_maxCells_lt many _
      computed room few m _ _ _ f := lift₂_eq hl hr rfl rfl room few f
      recorded room few f :=
        recorded_of_computed (lift₂_eq hl hr rfl rfl room few (recorded f)) }
  · intro argument h height width
    exact {
      refused many m _ _ f := collect_of_maxCells_lt many _
      computed room few m _ _ _ f := lift₁_eq h rfl rfl room few f
      recorded room few f := recorded_of_computed (lift₁_eq h rfl rfl room few (recorded f)) }

/-- A column and a row, at different places, make a grid. -/
theorem lifts_elementwise_column_row
    : let here : Position := ⟨3, 4⟩
      let column : Value := .area ⟨⟨0, 0⟩, 2, 1, 0, 0, 2, 1, #[.boolean true, .boolean false]⟩
      let row : Value := .area ⟨⟨8, 5⟩, 1, 2, 0, 0, 1, 2, #[.text "x", .error .ref]⟩
      let keepLeft (x _ : Value) : Outcome := .ok x
      let fail (_ : Value) : Outcome := .error (.area .noCells)
      (column.OfScalars ∧ row.OfScalars) ∧ Room here [column, row] 2 2 ∧ Room here [column] 2 1
        ∧ lift₂ here column row keepLeft = .ok (.area ⟨here, 2, 2, 0, 0, 2, 2,
          #[.boolean true, .error .ref, .boolean false, .error .ref]⟩)
        ∧ lift₁ here column fail = .error (.area .noCells) := by
  intro here column row keepLeft fail
  have hl : column.OfScalars := ⟨by decide, by decide, by decide, by simp [Value.isScalar]⟩
  have hr : row.OfScalars := ⟨by decide, by decide, by decide, by simp [Value.isScalar]⟩
  have room₂ : Room here [column, row] 2 2 := by
    refine ⟨⟨by decide, by decide, by decide, by decide⟩, ?_⟩
    simp only [List.forall_mem_cons]
    exact ⟨⟨by decide, by decide, by decide, by decide⟩,
      ⟨by decide, by decide, by decide, by decide⟩, fun value mem => nomatch mem⟩
  have room₁ : Room here [column] 2 1 := by
    refine ⟨⟨by decide, by decide, by decide, by decide⟩, ?_⟩
    simp only [List.forall_mem_cons]
    exact ⟨⟨by decide, by decide, by decide, by decide⟩, fun value mem => nomatch mem⟩
  obtain ⟨two, one⟩ := lifts_elementwise here
  exact ⟨⟨hl, hr⟩, room₂, room₁,
    ((two column row hl hr).computed room₂ (by decide) fun p => keepLeft p.1 p.2).trans rfl,
    ((one column hl).computed room₁ (by decide) fail).trans rfl⟩

end Broadcast

end Spreadsheet
