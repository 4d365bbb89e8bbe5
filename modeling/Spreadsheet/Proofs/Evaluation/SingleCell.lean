import Spreadsheet.Proofs.Evaluation.ReadAlike
import Spreadsheet.Proofs.Evaluation.SheetByName
import Spreadsheet.Proofs.Evaluation.Termination
import Spreadsheet.Proofs.Function.Aggregate

/-! A cell and the range of that cell alone, as arguments of a function of any number of arguments.
Of the range only what has the right type counts; the cell is handed over as a scalar, and counts
like a value that is typed into the call.
-/

namespace Spreadsheet

-- What counts alike

/-- As an argument of its own, a value counts for a function of any number of arguments as it does
inside a reference.
-/
def Function.countsAlike (f : Function) : Value → Bool
  | .number _ => true
  | .error _ => true
  | .boolean _ => f = conjunction || f = disjunction
  | _ => false

namespace Aggregate

variable {α : Type} {ctx : Context} {direct stored : Value → Except CellError (Option α)}
  {value : Value} {f : Function} {area : Area Value}

/-- A single cell inside a reference. -/
theorem countedIn_cell (skipsBlank : stored .blank = .ok none)
    (data : area.data = [value].filter Value.isData)
    : countedIn ctx direct stored (itemsOf (.area area)) = (stored value).map Option.toList := by
  rw [itemsOf, data, countedIn_stored skipsBlank, filterMapM_eq_mapM, List.mapM_cons]
  cases stored value with
  | error e => rfl
  | ok counted => cases counted <;> rfl

theorem countedIn_error (e : CellError)
    : countedIn ctx direct stored (itemsOf (.error e)) = .error e := by
  refine (countedIn_typed _).trans ?_
  rw [Context.scalar, Value.resolve]
  rfl

theorem countedIn_scalar (value : Value) (scalar : value.isScalar)
    (noError : value.isError = false)
    : countedIn ctx direct stored (itemsOf value) = (direct value).map Option.toList := by
  have typed : itemsOf value = [.typed value] := by
    cases value with
    | area a => cases scalar
    | union areas => cases scalar
    | _ => rfl
  rw [typed, countedIn_typed, Context.scalar, Value.resolve_of_isScalar scalar noError]
  change (direct value >>= fun counted => pure counted.toList) = _
  cases direct value with
  | error e => rfl
  | ok counted => rfl

/-- Numbers are what sums and products look for in a cell. -/
theorem numbersIn_cell (sums : f ∈ [Function.sum, .product]) (alike : f.countsAlike value)
    (data : area.data = [value].filter Value.isData)
    : numbersIn ctx (itemsOf (.area area)) = numbersIn ctx (itemsOf value) := by
  rw [numbersIn, numbersIn, countedIn_cell rfl data]
  cases value with
  | number x =>
    rw [countedIn_scalar (.number x) rfl rfl]
    rfl
  | error e => exact (countedIn_error e).symm
  | boolean b =>
    simp only [List.mem_cons, List.not_mem_nil, or_false] at sums
    rcases sums with rfl | rfl <;> cases alike
  | _ => cases alike

/-- Truth values and numbers are what combinations of truth values look for in a cell. -/
theorem logicalsIn_cell (plain : value.IsPlain) (alike : f.countsAlike value)
    (data : area.data = [value].filter Value.isData)
    : logicalsIn ctx (itemsOf (.area area)) = logicalsIn ctx (itemsOf value) := by
  rw [logicalsIn, logicalsIn, countedIn_cell rfl data]
  cases value with
  | number x =>
    have number : x.isNaN = false := plain
    rw [countedIn_scalar (.number x) rfl rfl, directLogical, Value.toBoolean, number]
    · rfl
    · simp
  | boolean b =>
    rw [countedIn_scalar (.boolean b) rfl rfl]
    rfl
  | error e => exact (countedIn_error e).symm
  | _ => cases alike

/-- Whatever else is in a cell does not count. -/
theorem numbersIn_skipped (scalar : value.isScalar) (skipped : f.countsAlike value = false)
    (data : area.data = [value].filter Value.isData)
    : numbersIn ctx (itemsOf (.area area)) = numbersIn ctx [] := by
  rw [numbersIn, countedIn_cell rfl data]
  cases value with
  | number x => cases skipped
  | error e => cases skipped
  | area a => cases scalar
  | union areas => cases scalar
  | _ => rfl

theorem logicalsIn_skipped (combines : f ∈ [Function.conjunction, .disjunction])
    (scalar : value.isScalar) (skipped : f.countsAlike value = false)
    (data : area.data = [value].filter Value.isData)
    : logicalsIn ctx (itemsOf (.area area)) = logicalsIn ctx [] := by
  rw [logicalsIn, countedIn_cell rfl data]
  cases value with
  | number x => cases skipped
  | error e => cases skipped
  | boolean b =>
    simp only [List.mem_cons, List.not_mem_nil, or_false] at combines
    rcases combines with rfl | rfl <;> cases skipped
  | area a => cases scalar
  | union areas => cases scalar
  | _ => rfl

end Aggregate

namespace Function

variable {ctx : Context} {f : Function} {value : Value} {area : Area Value}

/-- An area of one cell may give way to the value in it if this counts alike. -/
theorem apply_cell_of_alike (aggregate : f ∈ [sum, product, conjunction, disjunction])
    (plain : value.IsPlain) (alike : f.countsAlike value)
    (data : area.data = [value].filter Value.isData) (before after : List Value)
    : f.apply ctx (before ++ .area area :: after) = f.apply ctx (before ++ value :: after) := by
  have single : Aggregate.items [value] = Aggregate.itemsOf value := List.append_nil _
  rw [List.append_cons before value]
  refine apply_replace aggregate (fun sums => ?_) (fun _ => ?_) before after
  · rw [single]
    exact Aggregate.numbersIn_cell sums alike data
  · rw [single]
    exact Aggregate.logicalsIn_cell plain alike data

/-- An area of one cell that does not count may be left out. -/
theorem apply_cell_of_skipped (aggregate : f ∈ [sum, product, conjunction, disjunction])
    (scalar : value.isScalar) (skipped : f.countsAlike value = false)
    (data : area.data = [value].filter Value.isData) (before after : List Value)
    : f.apply ctx (before ++ .area area :: after) = f.apply ctx (before ++ after) := by
  have without : f.apply ctx (before ++ .area area :: after)
      = f.apply ctx (before ++ [] ++ after) :=
    apply_replace aggregate (fun _ => Aggregate.numbersIn_skipped scalar skipped data)
      (fun combines => Aggregate.logicalsIn_skipped combines scalar skipped data) before after
  rwa [List.append_nil] at without

end Function

namespace Context

variable {ctx : Context} {ref : Option SheetRef} {a : Address} {area : Area Value}

/-- The area of a single cell has the data of the cell. -/
theorem exists_content_of_areas (read : ctx.areas ref (.single a) = pure [area])
    : ∃ content, ctx.cellValue ref a = .ok (.ofContent content)
      ∧ area.data = [Value.ofContent content].filter Value.isData := by
  cases inBook : ctx.book with
  | none =>
    obtain ⟨fits, rfl⟩ := (areas_of_noBook inBook).mp read
    have empty (p : Position) (_ : (Range.single a).contains p) := Sheet.get_blank "" p
    exact ⟨.empty, cellValue_of_shows read (Sheet.shows_unstored empty), rfl⟩
  | some book =>
    obtain ⟨indices, _, reads⟩ := (areas_eq_pure inBook).mp read
    obtain ⟨index, _, first, rest, rfl⟩ := List.forall₂_cons_right_iff.mp reads
    obtain ⟨sheet, _, stored⟩ := Workbook.areaAt_eq_pure.mp first
    refine ⟨sheet.get a.position, cellValue_of_shows read (Sheet.shows_of_area stored), ?_⟩
    rw [Sheet.data_of_area stored, Sheet.dataIn, Sheet.values, Range.rowCount_single,
      Range.colCount_single]
    rfl

/-- A cell and the range of that cell alone are read alike unless there is one area to read. Then
the cell is what the area shows.
-/
theorem cellValue_cases (ctx : Context) (ref : Option SheetRef) (a : Address)
    : (ctx.cellValue ref a = ctx.rangeValue ref (.single a)
        ∧ ∀ value, ctx.cellValue ref a = .ok value → value.isScalar → value.isError)
      ∨ ∃ area content, ctx.rangeValue ref (.single a) = .ok (.area area)
        ∧ ctx.cellValue ref a = .ok (.ofContent content)
        ∧ area.data = [Value.ofContent content].filter Value.isData := by
  -- Only what is made of a single area differs: the value in it, or the area itself.
  unfold cellValue rangeValue
  rcases read : ctx.areas ref (.single a) with e | e | _ | ⟨area, _ | ⟨second, rest⟩⟩
  · refine .inl ⟨rfl, fun value same _ => ?_⟩
    cases same
  · refine .inl ⟨rfl, fun value same _ => ?_⟩
    cases same
    rfl
  · refine .inl ⟨rfl, fun value same scalar => ?_⟩
    cases same
    cases scalar
  · obtain ⟨content, value, data⟩ := exists_content_of_areas read
    rw [cellValue, read] at value
    exact .inr ⟨area, content, rfl, value, data⟩
  · refine .inl ⟨rfl, fun value same scalar => ?_⟩
    cases same
    cases scalar

-- A cell as an argument

variable {depth : Nat} {name : String} {f : Function} {e : Expr} {before after : List Expr}

/-- A function of any number of arguments can be called as soon as there is one. -/
theorem checkCall_aggregate
    (aggregate : f ∈ [Function.sum, .product, .conjunction, .disjunction])
    (named : Function.ofName? name = some f) (count : Nat)
    : checkCall name (count + 1) = .ok f := by
  rw [checkCall, named]
  simp only [List.mem_cons, List.not_mem_nil, or_false] at aggregate
  rcases aggregate with rfl | rfl | rfl | rfl <;> rfl

/-- The arguments of a call are evaluated from left to right. -/
theorem evaluate_call_aggregate
    (aggregate : f ∈ [Function.sum, .product, .conjunction, .disjunction])
    (named : Function.ofName? name = some f)
    : ctx.evaluateWithin depth (.call name (before ++ e :: after)) = (do
        let values ← before.mapM (ctx.evaluateWithin depth)
        let value ← ctx.evaluateWithin depth e
        let more ← after.mapM (ctx.evaluateWithin depth)
        (f.apply ctx (values ++ value :: more)).mapError .operation) := by
  have count : (before ++ e :: after).length = before.length + after.length + 1 := by
    rw [List.length_append, List.length_cons, Nat.add_assoc]
  rw [evaluateWithin, Expr.eval, count, checkCall_aggregate aggregate named, Expr.evalList_eq_mapM,
    List.mapM_append]
  change (_ >>= fun values => _) = _
  simp only [List.mapM_cons, bind_assoc, pure_bind]
  rfl

theorem evaluate_single (ctx : Context) (depth : Nat) (ref : Option SheetRef) (a : Address)
    : ctx.evaluateWithin depth (.range ref (.spanning a a))
      = (ctx.rangeValue ref (.single a)).mapError fun e => .operation (.area e) := by
  rw [← Range.spanning_corners (.single a)]
  rfl

/-- A cell and its range go alike if what the cell holds counts alike. -/
theorem evaluate_cell_of_alike
    (aggregate : f ∈ [Function.sum, .product, .conjunction, .disjunction])
    (named : Function.ofName? name = some f)
    (alike : ∀ value, ctx.cellValue ref a = .ok value → value.isScalar → f.countsAlike value)
    (before after : List Expr)
    : ctx.evaluateWithin depth (.call name (before ++ .cell ref a :: after))
      = ctx.evaluateWithin depth (.call name (before ++ .range ref (.spanning a a) :: after)) := by
  rw [evaluate_call_aggregate aggregate named, evaluate_call_aggregate aggregate named,
    evaluate_single, evaluateWithin, Expr.eval]
  rcases cellValue_cases ctx ref a with ⟨same, _⟩ | ⟨area, content, range, cell, data⟩
  · rw [same]
  · have plain := Value.isPlain_ofContent content
    rw [range, cell]
    refine bind_congr fun values => ?_
    refine congrArg (after.mapM (ctx.evaluateWithin depth) >>= ·) (funext fun more => ?_)
    rw [Function.apply_cell_of_alike aggregate plain (alike _ cell plain.isScalar) data]

/-- If what the cell holds does not count alike, then it does not count in the range at all. -/
theorem evaluate_cell_of_skipped {value : Value} {values more : List Value}
    (before after : List Expr)
    (aggregate : f ∈ [Function.sum, .product, .conjunction, .disjunction])
    (named : Function.ofName? name = some f) (holds : ctx.cellValue ref a = .ok value)
    (scalar : value.isScalar) (skipped : f.countsAlike value = false)
    (first : before.mapM (ctx.evaluateWithin depth) = .ok values)
    (last : after.mapM (ctx.evaluateWithin depth) = .ok more)
    : ctx.evaluateWithin depth (.call name (before ++ .cell ref a :: after))
        = (f.apply ctx (values ++ value :: more)).mapError .operation
      ∧ ctx.evaluateWithin depth (.call name (before ++ .range ref (.spanning a a) :: after))
        = (f.apply ctx (values ++ more)).mapError .operation := by
  rw [evaluate_call_aggregate aggregate named, evaluate_call_aggregate aggregate named,
    evaluate_single, evaluateWithin, Expr.eval, first, last]
  rcases cellValue_cases ctx ref a with ⟨_, isError⟩ | ⟨area, content, range, cell, data⟩
  · cases value with
    | error e => cases skipped
    | _ => cases isError _ holds scalar
  · obtain rfl : Value.ofContent content = value := Except.ok.inj (cell.symm.trans holds)
    rw [range, cell]
    refine ⟨rfl, ?_⟩
    exact congrArg (Except.mapError _)
      (Function.apply_cell_of_skipped aggregate scalar skipped data values more)

/-- As an argument of a sum, a product or one of the two combinations of truth values, a reference
to one cell and the range of this cell alone come to the same whenever the cell holds a number or an
error, or a truth value if these are combined, and whenever the reference has another value than
that of one cell, or none. Text, blank cells and truth values that are not combined count as typed
into the call when the reference is to the cell, and do not count in the range.
-/
theorem evaluate_single_cell_argument (ctx : Context) (depth : Nat)
    (aggregate : f ∈ [Function.sum, .product, .conjunction, .disjunction])
    (named : Function.ofName? name = some f) (ref : Option SheetRef) (a : Address)
    (before after : List Expr)
    : ((∀ value, ctx.cellValue ref a = .ok value → value.isScalar → f.countsAlike value) →
        ctx.evaluateWithin depth (.call name (before ++ .cell ref a :: after))
          = ctx.evaluateWithin depth (.call name (before ++ .range ref (.spanning a a) :: after)))
      ∧ ∀ value values more, ctx.cellValue ref a = .ok value → value.isScalar →
        f.countsAlike value = false → before.mapM (ctx.evaluateWithin depth) = .ok values →
        after.mapM (ctx.evaluateWithin depth) = .ok more →
        ctx.evaluateWithin depth (.call name (before ++ .cell ref a :: after))
            = (f.apply ctx (values ++ value :: more)).mapError .operation
          ∧ ctx.evaluateWithin depth (.call name (before ++ .range ref (.spanning a a) :: after))
            = (f.apply ctx (values ++ more)).mapError .operation :=
  ⟨fun alike => evaluate_cell_of_alike aggregate named alike before after,
    fun _ _ _ holds scalar skipped first last =>
      evaluate_cell_of_skipped before after aggregate named holds scalar skipped first last⟩

/-- A truth value in a cell counts alike for `AND`, and does not count in a range for `SUM`. -/
theorem evaluate_single_cell_argument_truth_value
    : let blank : Sheet := .blank "Sheet1"
      let sheet : Sheet := { blank with cells := blank.cells.insert ⟨0, 0⟩ (.boolean true) }
      let ctx : Context := { book := some { Workbook.new with sheets := [sheet] } }
      let cell : Address := { row := 0, col := 0 }
      ctx.evaluate (.call "AND" [.cell none cell])
          = ctx.evaluate (.call "AND" [.range none (.spanning cell cell)])
        ∧ ctx.evaluate (.call "SUM" [.cell none cell, .number 1])
          = .ok (Aggregate.sum ctx [.boolean true, .number 1])
        ∧ ctx.evaluate (.call "SUM" [.range none (.spanning cell cell), .number 1])
          = .ok (Aggregate.sum ctx [.number 1]) := by
  intro blank sheet ctx cell
  have held : sheet.get ⟨0, 0⟩ = .boolean true := by
    rw [Sheet.get, Cells.get?_insert, if_pos rfl]
    rfl
  have holds : ctx.cellValue none cell = .ok (.boolean true) := by
    have read : ctx.cellValue none cell = .ok (.ofContent (sheet.get ⟨0, 0⟩)) :=
      cellValue_of_sheets rfl rfl rfl ⟨by decide, by decide⟩
    rw [read, held]
    rfl
  have conjunction : Function.ofName? "AND" = some .conjunction := by
    decide +kernel
  have sum : Function.ofName? "SUM" = some .sum := by
    decide +kernel
  refine ⟨(evaluate_single_cell_argument ctx maxNameDepth (by simp) conjunction none cell []
    []).1 fun value holds' _ => ?_, ?_⟩
  · cases holds.symm.trans holds'
    rfl
  · exact (evaluate_single_cell_argument ctx maxNameDepth (by simp) sum none cell []
      [.number 1]).2 (.boolean true) [] [.number 1] holds rfl rfl rfl rfl

/-- A blank cell is `FALSE` as an argument of its own, and does not count in a range. -/
theorem evaluate_blank_cell_ne
    : let ctx : Context := { book := some .new }
      let cell : Address := { row := 0, col := 0 }
      Expr.parse "=AND(A1,TRUE)" = .ok (.call "AND" [.cell none cell, .boolean true])
        ∧ Expr.parse "=AND(A1:A1,TRUE)"
          = .ok (.call "AND" [.range none (.spanning cell cell), .boolean true])
        ∧ ctx.evaluateFormula "=AND(A1,TRUE)" = .ok (.boolean false)
        ∧ ctx.evaluateFormula "=AND(A1:A1,TRUE)" = .ok (.boolean true) := by
  intro ctx cell
  have parsed : Expr.parse "=AND(A1,TRUE)"
      = .ok (.call "AND" [.cell none cell, .boolean true]) := by
    with_unfolding_all rfl
  have parsed' : Expr.parse "=AND(A1:A1,TRUE)"
      = .ok (.call "AND" [.range none (.spanning cell cell), .boolean true]) := by
    with_unfolding_all rfl
  have named : Function.ofName? "AND" = some .conjunction := by
    decide +kernel
  have holds : ctx.cellValue none cell = .ok .blank := by
    have read : ctx.cellValue none cell = .ok (.ofContent ((Sheet.blank "Sheet1").get ⟨0, 0⟩)) :=
      cellValue_of_sheets rfl rfl rfl ⟨by decide, by decide⟩
    rw [read, Sheet.get_blank]
    rfl
  have asCell : Aggregate.logicals ctx [.blank, .boolean true] = .ok [false, true] := by
    have seen (value : Value) (scalar : value.isScalar) (noError : value.isError = false)
        : ctx.scalar value = .ok value :=
      Value.resolve_of_isScalar scalar noError
    rw [Aggregate.logicals, Aggregate.collect, List.mapM_cons, List.mapM_cons]
    simp only [Value.storedCells?]
    rw [seen .blank rfl rfl, seen (.boolean true) rfl rfl]
    rfl
  have asRange : Aggregate.logicals ctx [.boolean true] = .ok [true] :=
    Aggregate.logicals_booleans (List.cons_ne_nil true [])
  have values : ctx.evaluate (.call "AND" [.cell none cell, .boolean true])
        = (Function.conjunction.apply ctx [.blank, .boolean true]).mapError .operation
      ∧ ctx.evaluate (.call "AND" [.range none (.spanning cell cell), .boolean true])
        = (Function.conjunction.apply ctx [.boolean true]).mapError .operation :=
    evaluate_cell_of_skipped [] [.boolean true] (by simp) named holds rfl rfl rfl rfl
  rw [(Function.combinations_of_ok asCell).1, (Function.combinations_of_ok asRange).1] at values
  refine ⟨parsed, parsed', ?_, ?_⟩
  · rw [evaluateFormula_of_parse parsed, values.1]
    exact congrArg Except.ok (shown_ofContent ctx (.boolean false))
  · rw [evaluateFormula_of_parse parsed', values.2]
    exact congrArg Except.ok (shown_ofContent ctx (.boolean true))

end Context

end Spreadsheet
