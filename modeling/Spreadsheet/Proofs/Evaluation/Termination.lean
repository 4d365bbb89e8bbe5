import Spreadsheet.Proofs.Evaluation.NameDepth
import Spreadsheet.Proofs.Outcome

/-! Evaluation comes to an end whatever the defined names of a workbook refer to. The value of a
formula is asked of the formulas below it and of what its names stand for, and as names are only
followed so deep, this cannot go on for ever. Names that lead back to themselves are cut off.
-/

namespace Spreadsheet

/-- The value of a literal. -/
def Expr.literalValue? : Expr → Option Value
  | .number value => some (.number value)
  | .text value => some (.text value)
  | .boolean value => some (.boolean value)
  | .error e => some (.error e)
  | _ => none

theorem Expr.evalList_eq_mapM {names : String → Evaluation Value} {ctx : Context} (es : List Expr)
    : evalList names ctx es = es.mapM fun e => e.eval names ctx := by
  induction es with
  | nil => rfl
  | cons e es ih => rw [evalList, ih, List.mapM_cons]

theorem Expr.evalRows_eq_mapM {names : String → Evaluation Value} {ctx : Context}
    (rows : List (List Expr))
    : evalRows names ctx rows = rows.mapM fun row => do
        return (← row.mapM fun e => e.eval names ctx).map element := by
  induction rows with
  | nil => rfl
  | cons row rows ih =>
    rw [evalRows, ih, List.mapM_cons, evalList_eq_mapM]
    simp only [bind_assoc, pure_bind]

namespace Context

/-- The value of a formula inside so many names that are being followed already. -/
def evaluateAt (ctx : Context) (depth : Nat) (e : Expr) : Evaluation Value :=
  ctx.evaluateWithin (maxNameDepth - depth) e

/-- As the formula sees it, a name stands for another formula. -/
def Defines (ctx : Context) (n : String) (e : Expr) : Prop :=
  ∃ d, ctx.definition? n = some d ∧ Expr.parse d.formula = .ok e

/-- Evaluating a formula inside some names asks for the values of the formulas right below it, and
for that of the formula that it stands for if it is a name.
-/
inductive Asks (ctx : Context) : Nat × Expr → Nat × Expr → Prop where
  | child {depth : Nat} {e child : Expr} (below : child ∈ e.children)
      : Asks ctx (depth, child) (depth, e)
  | name {depth : Nat} {n : String} {e : Expr} (shallow : depth < maxNameDepth)
      (defines : ctx.Defines n e) : Asks ctx (depth + 1, e) (depth, .name n)

/-- The value of a formula inside some names in terms of the values that it asks for. -/
def step (ctx : Context) (value : Nat × Expr → Evaluation Value) (depth : Nat)
    : Expr → Evaluation Value
  | .name n =>
    match ctx.definition? n with
    | none => .ok (.error .name)
    | some d =>
      if maxNameDepth ≤ depth then .error .circularReference
      else do
        let e ← (Expr.parse d.formula).mapError .parse
        value (depth + 1, e)
  | .binary op left right => do
    let l ← value (depth, left)
    let r ← value (depth, right)
    (ctx.binary op l r).mapError .operation
  | .union left right => do
    match ← Expr.memberAreas ctx left fun _ => value (depth, left) with
    | .error e => return .error e
    | .ok areas =>
      match ← Expr.memberAreas ctx right fun _ => value (depth, right) with
      | .error e => return .error e
      | .ok more => return .union (areas ++ more)
  | .unary op operand => do
    (ctx.unary op (← value (depth, operand))).mapError .operation
  | .call f arguments => do
    let function ← checkCall f arguments.length
    let values ← arguments.mapM fun e => value (depth, e)
    (function.apply ctx values).mapError .operation
  | .array rows => do
    let values ← rows.mapM fun row => do
      return (← row.mapM fun e => value (depth, e)).map Expr.element
    match Area.ofRows ctx.here values with
    | .ok a => return .area a
    | .error e => throw (.operation (.area e))
  | .cell sheet a => (ctx.cellValue sheet a).mapError fun e => .operation (.area e)
  | .range sheet r => (ctx.rangeValue sheet r).mapError fun e => .operation (.area e)
  | .number value => .ok (.number value)
  | .text value => .ok (.text value)
  | .boolean value => .ok (.boolean value)
  | .error e => .ok (.error e)
  | .missing => .ok .missing

variable {ctx : Context} {depth : Nat} {e : Expr} {n : String}

-- Nothing is asked for without end

/-- How many names can still be followed, and how large the formula is. -/
noncomputable def distance (p : Nat × Expr) : Nat × Nat :=
  (maxNameDepth - p.1, sizeOf p.2)

/-- Each question leads into one name more, or to a smaller formula inside as many names. -/
theorem Asks.decreases {p q : Nat × Expr} (asks : ctx.Asks p q)
    : Prod.Lex (· < ·) (· < ·) (distance p) (distance q) := by
  cases asks with
  | child below => exact .right _ (Expr.sizeOf_lt_of_mem_children below)
  | name shallow _ =>
    refine .left _ _ ?_
    simp only
    omega

theorem wellFounded_asks (ctx : Context) : WellFounded ctx.Asks :=
  Subrelation.wf Asks.decreases (InvImage.wf distance (Prod.lex Nat.lt_wfRel Nat.lt_wfRel).wf)

/-- The value of a formula depends on nothing but the values that it asks for. -/
theorem step_congr {value value' : Nat × Expr → Evaluation Value}
    (same : ∀ p, ctx.Asks p (depth, e) → value p = value' p)
    : ctx.step value depth e = ctx.step value' depth e := by
  have children : ∀ child ∈ e.children, value (depth, child) = value' (depth, child) :=
    fun child below => same _ (.child below)
  cases e with
  | name n =>
    cases found : ctx.definition? n with
    | none => simp only [step, found]
    | some d =>
      rw [step, step, found]
      dsimp only
      split
      · rfl
      · next shallow =>
        cases parsed : Expr.parse d.formula with
        | error cause => rfl
        | ok e => exact same _ (.name (Nat.not_le.mp shallow) ⟨d, found, parsed⟩)
  | binary op left right =>
    simp only [Expr.children, List.forall_mem_cons] at children
    rw [step, step, children.1, children.2.1]
  | union left right =>
    simp only [Expr.children, List.forall_mem_cons] at children
    rw [step, step, children.1, children.2.1]
  | unary op operand =>
    simp only [Expr.children, List.forall_mem_cons] at children
    rw [step, step, children.1]
  | call f arguments =>
    have listed : (arguments.mapM fun e => value (depth, e))
        = arguments.mapM fun e => value' (depth, e) :=
      mapM_congr children
    rw [step, step, listed]
  | array rows =>
    have listed : ∀ row ∈ rows, (row.mapM fun e => value (depth, e))
        = row.mapM fun e => value' (depth, e) :=
      fun row inRows => mapM_congr fun e inRow =>
        children e (List.mem_flatten.mpr ⟨row, inRows, inRow⟩)
    rw [step, step, mapM_congr fun row inRows => by rw [listed row inRows]]
  | _ => rfl

-- Names that are followed, and names that are not

/-- Inside as many names as can be followed, a name is cut off. -/
theorem evaluateAt_of_deep {d : DefinedName} (deep : maxNameDepth ≤ depth)
    (found : ctx.definition? n = some d)
    : ctx.evaluateAt depth (.name n) = .error .circularReference := by
  rw [evaluateAt, Nat.sub_eq_zero_of_le deep]
  exact nameValue_zero found

/-- Inside fewer names, a name has the value of what it stands for inside one name more. -/
theorem evaluateAt_of_shallow {d : DefinedName} (shallow : depth < maxNameDepth)
    (found : ctx.definition? n = some d)
    : ctx.evaluateAt depth (.name n)
      = (Expr.parse d.formula).mapError .parse >>= ctx.evaluateAt (depth + 1) := by
  obtain ⟨more, left⟩ : ∃ more, maxNameDepth - depth = more + 1 :=
    ⟨maxNameDepth - (depth + 1), by omega⟩
  have next : maxNameDepth - (depth + 1) = more := by omega
  have inner : ctx.evaluateAt (depth + 1) = ctx.evaluateWithin more := by
    funext e
    rw [evaluateAt, next]
  change ctx.nameValue (maxNameDepth - depth) n = _
  rw [left, nameValue, found, inner]
  rfl

theorem evaluateAt_of_defines (shallow : depth < maxNameDepth) (defines : ctx.Defines n e)
    : ctx.evaluateAt depth (.name n) = ctx.evaluateAt (depth + 1) e := by
  obtain ⟨d, found, parsed⟩ := defines
  rw [evaluateAt_of_shallow shallow found, parsed]
  rfl

/-- The evaluator takes these steps. -/
theorem evaluateAt_eq_step (ctx : Context) (depth : Nat) (e : Expr)
    : ctx.evaluateAt depth e = ctx.step (fun p => ctx.evaluateAt p.1 p.2) depth e := by
  cases e with
  | name n =>
    cases found : ctx.definition? n with
    | none =>
      rw [step, found]
      exact nameValue_of_unknown found
    | some d =>
      rw [step, found]
      dsimp only
      split
      · next deep => exact evaluateAt_of_deep deep found
      · next shallow => exact evaluateAt_of_shallow (Nat.not_le.mp shallow) found
  | binary op left right => rfl
  | union left right => rfl
  | unary op operand => rfl
  | call f arguments =>
    rw [evaluateAt, evaluateWithin, Expr.eval, Expr.evalList_eq_mapM]
    rfl
  | array rows =>
    rw [evaluateAt, evaluateWithin, Expr.eval, Expr.evalRows_eq_mapM]
    rfl
  | _ => rfl

/-- No other values fit all steps, by induction along what is asked for. An evaluation that could
go on for ever would leave its value open.
-/
theorem eq_evaluateAt_of_steps {value : Nat × Expr → Evaluation Value}
    (steps : ∀ depth e, value (depth, e) = ctx.step value depth e) (depth : Nat) (e : Expr)
    : value (depth, e) = ctx.evaluateAt depth e := by
  suffices all : ∀ p, value p = ctx.evaluateAt p.1 p.2 from all (depth, e)
  intro p
  induction p using ctx.wellFounded_asks.induction with
  | h p ih =>
    rw [steps p.1 p.2, evaluateAt_eq_step]
    exact step_congr ih

-- Chains and cycles of names

/-- So many names, each of which stands for the next one, from a first one up to a formula that
the last one stands for.
-/
inductive Chain (ctx : Context) : Nat → String → Expr → Prop where
  | last {n : String} {e : Expr} (defines : ctx.Defines n e) : Chain ctx 1 n e
  | link {length : Nat} {n next : String} {e : Expr} (defines : ctx.Defines n (.name next))
      (rest : Chain ctx length next e) : Chain ctx (length + 1) n e

theorem Defines.exists_definition? (h : ctx.Defines n e) : ∃ d, ctx.definition? n = some d :=
  h.imp fun _ found => found.1

/-- A chain of names is followed to its end if that is not too deep, by induction on the chain. -/
theorem Chain.evaluateAt {length : Nat} (chain : ctx.Chain length n e)
    : ctx.evaluateAt depth (.name n)
      = if depth + length ≤ maxNameDepth then ctx.evaluateAt (depth + length) e
        else .error .circularReference := by
  induction chain generalizing depth with
  | last defines =>
    split
    · next shallow => exact evaluateAt_of_defines shallow defines
    · next deep =>
      obtain ⟨d, found⟩ := defines.exists_definition?
      exact evaluateAt_of_deep (Nat.not_lt.mp deep) found
  | @link length n next e defines rest ih =>
    by_cases shallow : depth < maxNameDepth
    · rw [evaluateAt_of_defines shallow defines, ih, Nat.add_assoc, Nat.add_comm 1]
    · obtain ⟨d, found⟩ := defines.exists_definition?
      rw [if_neg (by omega)]
      exact evaluateAt_of_deep (Nat.not_lt.mp shallow) found

/-- Names that stand for one another only are cut off, by induction on how many more names can be
followed.
-/
theorem evaluateAt_of_cycle {names : List String}
    (cycle : ∀ n ∈ names, ∃ next ∈ names, ctx.Defines n (.name next)) (mem : n ∈ names)
    : ctx.evaluateAt depth (.name n) = .error .circularReference := by
  induction left : maxNameDepth - depth generalizing depth n with
  | zero =>
    obtain ⟨_, _, defines⟩ := cycle n mem
    obtain ⟨d, found⟩ := defines.exists_definition?
    exact evaluateAt_of_deep (Nat.sub_eq_zero_iff_le.mp left) found
  | succ more ih =>
    obtain ⟨next, inNames, defines⟩ := cycle n mem
    rw [evaluateAt_of_defines (by omega) defines]
    exact ih inNames (by omega)

/-- An evaluation that is not cut off goes the same way inside fewer names. -/
theorem evaluateAt_of_le {depth' : Nat} (le : depth' ≤ depth)
    (whole : ctx.evaluateAt depth e ≠ .error .circularReference)
    : ctx.evaluateAt depth' e = ctx.evaluateAt depth e :=
  (extends_evaluateWithin (Nat.sub_le_sub_left le _) e).resolve_left whole

theorem evaluateAt_of_literal {value : Value} (literal : e.literalValue? = some value)
    : ctx.evaluateAt depth e = .ok value := by
  cases e <;> cases literal <;> rfl

/-- Evaluation comes to an end whatever the names refer to: a formula asks for nothing but the
values of others, there is no endless chain of such questions, and just one value fits all steps.
How deep names may be followed only decides whether they are cut off: up to 32 names in a row lead
to the literal at their end, while more of them and names in a circle are cut off.
-/
theorem evaluate_comes_to_end (ctx : Context)
    : (WellFounded ctx.Asks
        ∧ (∀ value value' depth e, (∀ p, ctx.Asks p (depth, e) → value p = value' p)
          → ctx.step value depth e = ctx.step value' depth e)
        ∧ ∀ value : Nat × Expr → Evaluation Value,
          (∀ depth e, value (depth, e) = ctx.step value depth e)
            ↔ ∀ depth e, value (depth, e) = ctx.evaluateAt depth e)
      ∧ (∀ e depth depth', depth' ≤ depth → ctx.evaluateAt depth e ≠ .error .circularReference
          → ctx.evaluateAt depth' e = ctx.evaluateAt depth e)
      ∧ (∀ length n e value, ctx.Chain length n e → e.literalValue? = some value
          → ctx.evaluate (.name n)
            = if length ≤ 32 then .ok value else .error .circularReference)
      ∧ ∀ names : List String, (∀ n ∈ names, ∃ next ∈ names, ctx.Defines n (.name next))
          → ∀ n ∈ names, ∀ depth, ctx.evaluateAt depth (.name n) = .error .circularReference := by
  refine ⟨⟨wellFounded_asks ctx, fun _ _ _ _ same => step_congr same, fun value => ⟨?_, ?_⟩⟩,
    fun e depth depth' le whole => evaluateAt_of_le le whole, ?_,
    fun names cycle n mem depth => evaluateAt_of_cycle cycle mem⟩
  · exact eq_evaluateAt_of_steps
  · intro same depth e
    obtain rfl : value = fun p => ctx.evaluateAt p.1 p.2 := funext fun p => same p.1 p.2
    exact evaluateAt_eq_step ctx depth e
  · intro length n e value chain literal
    have followed : ctx.evaluateAt 0 (.name n) = _ := chain.evaluateAt
    rw [evaluateAt_of_literal literal, Nat.zero_add] at followed
    exact followed

/-- A chain of two names leads to the literal at its end, and a name that stands for itself is cut
off.
-/
theorem evaluate_comes_to_end_names
    : let defined : List DefinedName :=
        [.ofText "rate" "base" .workbook, .ofText "base" "7" .workbook,
          .ofText "loop" "loop" .workbook]
      let names : NameTable := ⟨.ofList (defined.map fun d => (NameTable.key d.name d.scope, d))⟩
      let ctx : Context := { book := some { Workbook.new with names } }
      ctx.evaluate (.name "rate") = .ok (.number 7)
        ∧ ctx.evaluate (.name "loop") = .error .circularReference := by
  intro defined names ctx
  have found : ∀ d ∈ defined, ctx.definition? d.name = some d := by
    intro d mem
    have hidden : names.find? d.name (.sheet 0) = none := by
      refine Std.HashMap.getElem?_ofList_of_contains_eq_false ?_
      simp [defined, NameTable.key, DefinedName.ofText]
    have visible : names.find? d.name .workbook = some d := by
      refine Std.HashMap.getElem?_ofList_of_mem ?_ ?_ (List.mem_map_of_mem mem)
      · simp [defined, DefinedName.ofText] at mem
        rcases mem with rfl | rfl | rfl <;> rfl
      · decide +kernel
    change (names.find? d.name (.sheet 0)).or (names.find? d.name .workbook) = some d
    rw [hidden, visible]
    rfl
  have rate : ctx.Defines "rate" (.name "base") :=
    ⟨_, found (.ofText "rate" "base" .workbook) (by simp [defined]), by with_unfolding_all rfl⟩
  have base : ctx.Defines "base" (.number 7) :=
    ⟨_, found (.ofText "base" "7" .workbook) (by simp [defined]), by with_unfolding_all rfl⟩
  have loop : ctx.Defines "loop" (.name "loop") :=
    ⟨_, found (.ofText "loop" "loop" .workbook) (by simp [defined]), by with_unfolding_all rfl⟩
  obtain ⟨_, _, chains, cycles⟩ := evaluate_comes_to_end ctx
  have followed := chains 2 "rate" (.number 7) _ (.link rate (.last base)) rfl
  have cut := cycles ["loop"] (by simpa using loop) "loop" List.mem_cons_self 0
  rw [if_pos (by decide)] at followed
  exact ⟨followed, cut⟩

end Context

end Spreadsheet
