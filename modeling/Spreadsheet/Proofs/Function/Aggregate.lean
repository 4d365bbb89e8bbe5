import Spreadsheet.Proofs.Function.Alike
import Spreadsheet.Proofs.Value.Stored

/-! Functions of any number of arguments go through one list of items: the scalars among their
arguments, and the cells of references that are not blank. How these cells are spread over areas
and unions makes no difference.
-/

namespace Spreadsheet

-- The items of all arguments

namespace Aggregate

/-- What a function of any number of arguments comes across: a scalar that is an argument of its
own, or a cell inside a reference.
-/
inductive Item where
  | typed (value : Value)
  | stored (value : Value)

/-- An argument item by item; a reference is read row by row and area by area. -/
def itemsOf : Value → List Item
  | .area a => a.data.map .stored
  | .union areas => (areas.flatMap Area.data).map .stored
  | value => [.typed value]

/-- All arguments item by item. -/
def items (arguments : List Value) : List Item :=
  arguments.flatMap itemsOf

theorem items_middle (before between after : List Value)
    : items (before ++ between ++ after) = items before ++ items between ++ items after := by
  rw [items, List.flatMap_append, List.flatMap_append]
  rfl

theorem items_cons (before after : List Value) (argument : Value)
    : items (before ++ argument :: after) = items before ++ itemsOf argument ++ items after := by
  rw [items, List.flatMap_append, List.flatMap_cons, ← List.append_assoc]
  rfl

section Counting

variable {α : Type} (ctx : Context) (direct stored : Value → Except CellError (Option α))

/-- What an item counts as, if it does. -/
def Item.countedAs : Item → Except CellError (Option α)
  | .typed value => do direct (← ctx.scalar value)
  | .stored value => stored value

/-- What some items count as, up to the first error. -/
def countedIn (xs : List Item) : Except CellError (List α) :=
  (xs.mapM (Item.countedAs ctx direct stored)).map List.reduceOption

variable {ctx direct stored}

theorem countedIn_append (xs ys : List Item)
    : countedIn ctx direct stored (xs ++ ys) = do
        return (← countedIn ctx direct stored xs) ++ (← countedIn ctx direct stored ys) := by
  rw [countedIn, countedIn, countedIn, List.mapM_append]
  cases xs.mapM (Item.countedAs ctx direct stored) with
  | error e => rfl
  | ok xs =>
    cases ys.mapM (Item.countedAs ctx direct stored) with
    | error e => rfl
    | ok ys => exact congrArg Except.ok (List.reduceOption_append xs ys)

/-- Items may give way to others that count alike. -/
theorem countedIn_middle {xs ys : List Item}
    (same : countedIn ctx direct stored xs = countedIn ctx direct stored ys)
    (before after : List Item)
    : countedIn ctx direct stored (before ++ xs ++ after)
      = countedIn ctx direct stored (before ++ ys ++ after) := by
  rw [countedIn_append, countedIn_append, countedIn_append, countedIn_append, same]

/-- A scalar counts as what is made of it, if anything. -/
theorem countedIn_typed (value : Value)
    : countedIn ctx direct stored [.typed value]
      = do return (← direct (← ctx.scalar value)).toList := by
  rw [countedIn, List.mapM_cons, Item.countedAs]
  cases ctx.scalar value with
  | error e => rfl
  | ok seen =>
    change Except.map _ (do return (← direct seen) :: (← pure [])) = _
    cases found : direct seen with
    | error e => simp [found, bind, Except.bind, Except.map]
    | ok y => cases y <;> simp [found, bind, Except.bind, Except.map, pure, Except.pure]

/-- Cells inside a reference count one by one, and blank ones not at all. -/
theorem countedIn_stored (skipsBlank : stored .blank = .ok none) (cells : List Value)
    : countedIn ctx direct stored ((cells.filter Value.isData).map .stored)
      = cells.filterMapM stored := by
  rw [← filterMapM_isData skipsBlank, filterMapM_eq_mapM, countedIn, List.mapM_map]
  rfl

theorem countedIn_itemsOf (skipsBlank : stored .blank = .ok none) (argument : Value)
    : countedIn ctx direct stored (itemsOf argument) = match argument.storedCells? with
        | some cells => cells.filterMapM stored
        | none => do return (← direct (← ctx.scalar argument)).toList := by
  cases argument with
  | area a => exact countedIn_stored skipsBlank _
  | union areas =>
    have row : itemsOf (.union areas)
        = ((areas.flatMap fun a => a.cells.toList).filter Value.isData).map .stored := by
      rw [List.filter_flatMap]
      rfl
    rw [row]
    exact countedIn_stored skipsBlank _
  | _ => exact countedIn_typed _

/-- Collecting goes through the items of the arguments, by induction on the arguments. -/
theorem collect_eq (skipsBlank : stored .blank = .ok none) (arguments : List Value)
    : collect ctx direct stored arguments = countedIn ctx direct stored (items arguments) := by
  have each : collect ctx direct stored arguments
      = (arguments.mapM fun argument => countedIn ctx direct stored (itemsOf argument))
        >>= fun parts => pure parts.flatten :=
    congrArg (· >>= _) (mapM_congr fun argument _ => (countedIn_itemsOf skipsBlank argument).symm)
  rw [each]
  clear each
  induction arguments with
  | nil => rfl
  | cons argument arguments ih =>
    rw [items, List.flatMap_cons, countedIn_append, ← items, ← ih, List.mapM_cons]
    simp only [bind_assoc, pure_bind, List.flatten_cons]

end Counting

/-- The numbers that some items count as. -/
def numbersIn (ctx : Context) (xs : List Item) : Except CellError (List Float) :=
  countedIn ctx directNumber storedNumber xs

/-- The truth values that some items count as. -/
def logicalsIn (ctx : Context) (xs : List Item) : Except CellError (List Bool) :=
  countedIn ctx directLogical storedLogical xs

variable {ctx : Context} {arguments arguments' : List Value}

theorem numbers_eq : numbers ctx arguments = numbersIn ctx (items arguments) :=
  collect_eq rfl arguments

/-- Truth values are those that count, of which there has to be one. -/
theorem logicals_cases (ctx : Context) (arguments : List Value)
    : (∃ e, logicals ctx arguments = .error e
        ∧ (logicalsIn ctx (items arguments) = .error e
          ∨ logicalsIn ctx (items arguments) = .ok [] ∧ e = .value))
      ∨ ∃ values, values ≠ [] ∧ logicalsIn ctx (items arguments) = .ok values
        ∧ logicals ctx arguments = .ok values := by
  rw [logicals, collect_eq rfl, ← logicalsIn]
  cases logicalsIn ctx (items arguments) with
  | error e => exact .inl ⟨e, rfl, .inl rfl⟩
  | ok values =>
    cases values with
    | nil => exact .inl ⟨.value, rfl, .inr ⟨rfl, rfl⟩⟩
    | cons value values => exact .inr ⟨_, List.cons_ne_nil _ _, rfl, rfl⟩

theorem logicals_congr (same : logicalsIn ctx (items arguments) = logicalsIn ctx (items arguments'))
    : logicals ctx arguments = logicals ctx arguments' := by
  rw [logicals, logicals, collect_eq rfl, collect_eq rfl, ← logicalsIn, ← logicalsIn, same]

/-- Truth values that are given one by one are those that count, by induction on them. -/
theorem logicalsIn_booleans (values : List Bool)
    : logicalsIn ctx (items (values.map .boolean)) = .ok values := by
  induction values with
  | nil => rfl
  | cons value values ih =>
    have first : logicalsIn ctx (itemsOf (.boolean value)) = .ok [value] := by
      refine (countedIn_typed _).trans ?_
      rw [Context.scalar, Value.resolve_of_isScalar rfl rfl]
      rfl
    rw [List.map_cons, items, List.flatMap_cons, ← items, logicalsIn, countedIn_append,
      ← logicalsIn, ← logicalsIn, first, ih]
    rfl

theorem logicals_booleans {values : List Bool} (some : values ≠ [])
    : logicals ctx (values.map .boolean) = .ok values := by
  rw [logicals, collect_eq rfl, ← logicalsIn, logicalsIn_booleans]
  cases values with
  | nil => exact absurd rfl some
  | cons value values => rfl

end Aggregate

namespace Function

variable {ctx : Context} {f : Function} {arguments : List Value}

/-- Sums and products come from the numbers among the items, combinations of truth values from the
truth values, so that an argument may give way to others in which these are the same.
-/
theorem apply_replace (aggregate : f ∈ [sum, product, conjunction, disjunction]) {argument : Value}
    {others : List Value}
    (numbers : f ∈ [sum, product] →
      Aggregate.numbersIn ctx (Aggregate.itemsOf argument)
        = Aggregate.numbersIn ctx (Aggregate.items others))
    (logicals : f ∈ [conjunction, disjunction] →
      Aggregate.logicalsIn ctx (Aggregate.itemsOf argument)
        = Aggregate.logicalsIn ctx (Aggregate.items others))
    (before after : List Value)
    : f.apply ctx (before ++ argument :: after) = f.apply ctx (before ++ others ++ after) := by
  have sameNumbers (sums : f ∈ [sum, product])
      : Aggregate.numbers ctx (before ++ argument :: after)
        = Aggregate.numbers ctx (before ++ others ++ after) := by
    rw [Aggregate.numbers_eq, Aggregate.numbers_eq, Aggregate.items_cons, Aggregate.items_middle]
    exact Aggregate.countedIn_middle (numbers sums) _ _
  have sameLogicals (combines : f ∈ [conjunction, disjunction])
      : Aggregate.logicals ctx (before ++ argument :: after)
        = Aggregate.logicals ctx (before ++ others ++ after) := by
    refine Aggregate.logicals_congr ?_
    rw [Aggregate.items_cons, Aggregate.items_middle]
    exact Aggregate.countedIn_middle (logicals combines) _ _
  simp only [List.mem_cons, List.not_mem_nil, or_false] at aggregate
  rcases aggregate with rfl | rfl | rfl | rfl
  · rw [apply, apply, Aggregate.sum, Aggregate.sum, sameNumbers (by simp)]
  · rw [apply, apply, Aggregate.product, Aggregate.product, sameNumbers (by simp)]
  · rw [apply, apply, Aggregate.conjunction, Aggregate.conjunction, sameLogicals (by simp)]
  · rw [apply, apply, Aggregate.disjunction, Aggregate.disjunction, sameLogicals (by simp)]

/-- An argument may give way to others that have its items. -/
theorem apply_replace_of_items (aggregate : f ∈ [sum, product, conjunction, disjunction])
    {argument : Value} {others : List Value}
    (same : Aggregate.items others = Aggregate.itemsOf argument) (before after : List Value)
    : f.apply ctx (before ++ argument :: after) = f.apply ctx (before ++ others ++ after) :=
  apply_replace aggregate (fun _ => congrArg _ same.symm) (fun _ => congrArg _ same.symm) before
    after

theorem combinations_of_error {e : CellError} (failed : Aggregate.logicals ctx arguments = .error e)
    : conjunction.apply ctx arguments = .ok (.error e)
      ∧ disjunction.apply ctx arguments = .ok (.error e) := by
  rw [apply, apply, Aggregate.conjunction, Aggregate.disjunction, failed]
  exact ⟨rfl, rfl⟩

theorem combinations_of_ok {values : List Bool}
    (found : Aggregate.logicals ctx arguments = .ok values)
    : conjunction.apply ctx arguments = .ok (.boolean (values.all id))
      ∧ disjunction.apply ctx arguments = .ok (.boolean (values.any id)) := by
  rw [apply, apply, Aggregate.conjunction, Aggregate.disjunction, found]
  exact ⟨rfl, rfl⟩

/-- All of the opposites of truth values hold if none of them does. -/
theorem conjunction_opposites {values : List Bool} (some : values ≠ [])
    : conjunction.apply ctx (values.map fun value => .boolean !value)
      = .ok (.boolean !(values.any id)) := by
  have opposites : Aggregate.logicals ctx ((values.map not).map .boolean) = .ok (values.map not) :=
    Aggregate.logicals_booleans fun none => some (List.map_eq_nil_iff.mp none)
  rw [List.map_map] at opposites
  rw [List.not_any_eq_all_not]
  refine (combinations_of_ok opposites).1.trans ?_
  rw [List.all_map]
  rfl

end Function

-- Areas cut into blocks of rows

namespace Area

variable {a part : Area Value} {start : Nat} {parts : List (Area Value)}

/-- An area shows full rows of another one, from a row of it on. -/
structure HoldsRows (a part : Area Value) (start : Nat) : Prop where
  width : part.width = a.width
  shown : ∀ row < part.height, ∀ col < part.width,
    part.relative? row col = a.relative? (start + row) col

/-- Areas that hold the rows of an area from one of them on, one block behind the other. -/
inductive RowBlocks (a : Area Value) : Nat → List (Area Value) → Prop
  | done : RowBlocks a a.height []
  | block {start : Nat} {part : Area Value} {parts : List (Area Value)}
      (holds : a.HoldsRows part start) (rest : RowBlocks a (start + part.height) parts)
    : RowBlocks a start (part :: parts)

theorem RowBlocks.start_le (blocks : a.RowBlocks start parts) : start ≤ a.height := by
  induction blocks with
  | done => exact Nat.le_refl _
  | block _ _ ih => exact Nat.le_of_add_right_le ih

/-- What is not blank in some rows of an area, row by row. -/
def dataInRows (a : Area Value) (start count : Nat) : List Value :=
  (List.range' start count).flatMap fun row => (List.range' 0 a.width).flatMap (a.dataAt row)

/-- A block of rows has the data of these rows. -/
theorem HoldsRows.data_eq (holds : a.HoldsRows part start) (stored : part.WellStored)
    (inside : start + part.height ≤ a.height)
    : part.data = a.dataInRows start part.height := by
  have rows : List.range' start part.height = (List.range' 0 part.height).map (start + ·) := by
    rw [List.map_add_range', Nat.add_zero]
  rw [stored.data_eq, dataInRows, rows, List.flatMap_map]
  refine List.flatMap_congr fun row inRows => ?_
  rw [holds.width]
  refine List.flatMap_congr fun col inCols => ?_
  have inRow : row < part.height := by simpa using List.mem_range'_1.mp inRows
  have inCol : col < a.width := by simpa using List.mem_range'_1.mp inCols
  have shown := holds.shown row inRow col (holds.width ▸ inCol)
  rw [relative?_of_lt inRow (holds.width ▸ inCol), relative?_of_lt (by omega) inCol] at shown
  rw [dataAt, dataAt, Option.some.inj shown]

/-- Blocks of rows have the data of all their rows together, by induction on the blocks. -/
theorem RowBlocks.flatMap_data (blocks : a.RowBlocks start parts)
    (stored : ∀ part ∈ parts, part.WellStored)
    : parts.flatMap data = a.dataInRows start (a.height - start) := by
  induction blocks with
  | done =>
    rw [Nat.sub_self]
    rfl
  | @block start part parts holds rest ih =>
    obtain ⟨storedPart, storedRest⟩ := List.forall_mem_cons.mp stored
    have inside := rest.start_le
    have rows : a.height - start = part.height + (a.height - (start + part.height)) := by omega
    rw [List.flatMap_cons, holds.data_eq storedPart inside, ih storedRest, rows, dataInRows,
      dataInRows, dataInRows, ← List.flatMap_append, List.range'_append_1]

/-- The blocks that an area is cut into have its data. -/
theorem RowBlocks.data_eq (blocks : a.RowBlocks 0 parts) (whole : a.WellStored)
    (stored : ∀ part ∈ parts, part.WellStored)
    : parts.flatMap data = a.data :=
  (blocks.flatMap_data stored).trans whole.data_eq.symm

end Area

namespace Aggregate

variable {a : Area Value} {parts : List (Area Value)}

theorem items_areas (areas : List (Area Value))
    : items (areas.map .area) = itemsOf (.union areas) := by
  rw [items, List.flatMap_map, itemsOf, List.map_flatMap]
  rfl

theorem items_blocks (blocks : a.RowBlocks 0 parts) (whole : a.WellStored)
    (stored : ∀ part ∈ parts, part.WellStored)
    : items (parts.map .area) = itemsOf (.area a) := by
  rw [items_areas, itemsOf, itemsOf, blocks.data_eq whole stored]

end Aggregate

/-- Functions of any number of arguments only see the items of their arguments: for the sum, the
product and the two combinations of truth values it makes no difference whether areas are given as
a union or one by one, or whether an area is cut into blocks of rows. The two combinations fail
alike, and else combine the same truth values, of which there is at least one.
-/
theorem Function.aggregates_flatten (ctx : Context)
    : (∀ f ∈ [sum, product, conjunction, disjunction], ∀ before after : List Value,
        (∀ areas : List (Area Value),
          f.apply ctx (before ++ .union areas :: after)
            = f.apply ctx (before ++ areas.map .area ++ after))
        ∧ ∀ (a : Area Value) (parts : List (Area Value)), a.Built → (∀ part ∈ parts, part.Built) →
          a.RowBlocks 0 parts →
          f.apply ctx (before ++ .area a :: after)
            = f.apply ctx (before ++ parts.map .area ++ after))
      ∧ ∀ arguments : List Value,
        (∃ e, conjunction.apply ctx arguments = .ok (.error e)
          ∧ disjunction.apply ctx arguments = .ok (.error e)
          ∧ (Aggregate.logicalsIn ctx (Aggregate.items arguments) = .error e
            ∨ Aggregate.logicalsIn ctx (Aggregate.items arguments) = .ok [] ∧ e = .value))
        ∨ ∃ values, values ≠ []
          ∧ Aggregate.logicalsIn ctx (Aggregate.items arguments) = .ok values
          ∧ conjunction.apply ctx arguments = .ok (.boolean (values.all id))
          ∧ disjunction.apply ctx arguments = .ok (.boolean (values.any id))
          ∧ conjunction.apply ctx (values.map fun value => .boolean !value)
            = .ok (.boolean !(values.any id)) := by
  refine ⟨fun f aggregate before after => ⟨fun areas => ?_, fun a parts whole built blocks => ?_⟩,
    fun arguments => ?_⟩
  · exact apply_replace_of_items aggregate (Aggregate.items_areas areas) before after
  · refine apply_replace_of_items aggregate ?_ before after
    exact Aggregate.items_blocks blocks whole.wellStored fun part mem => (built part mem).wellStored
  · rcases Aggregate.logicals_cases ctx arguments with
      ⟨e, failed, reason⟩ | ⟨values, some, found, combined⟩
    · obtain ⟨all, any⟩ := combinations_of_error failed
      exact .inl ⟨e, all, any, reason⟩
    · obtain ⟨all, any⟩ := combinations_of_ok combined
      exact .inr ⟨values, some, found, all, any, conjunction_opposites some⟩

/-- A column with an empty cell above two numbers, of which only the numbers are stored, cut into
the empty cell and the two numbers.
-/
theorem Function.aggregates_flatten_column
    : let column : Area Value := ⟨⟨0, 0⟩, 3, 1, 1, 0, 2, 1, #[.number 2, .number 3]⟩
      let upper : Area Value := ⟨⟨0, 0⟩, 1, 1, 0, 0, 0, 0, #[]⟩
      let lower : Area Value := ⟨⟨1, 0⟩, 2, 1, 0, 0, 2, 1, #[.number 2, .number 3]⟩
      column.Built ∧ upper.Built ∧ lower.Built ∧ column.RowBlocks 0 [upper, lower]
        ∧ ∀ ctx, product.apply ctx [.text "5", .area column]
          = product.apply ctx [.text "5", .area upper, .area lower] := by
  intro column upper lower
  have builtColumn : column.Built := by
    let unfilled : Area Value := .unstored ⟨0, 0⟩ 3 1
    have built : Area.blank ⟨0, 0⟩ 3 1 = .ok unfilled := rfl
    have stored : unfilled.withBlock ⟨1, 0⟩ [[.number 2], [.number 3]] = .ok column := rfl
    exact .withBlock (.blank built) stored
  have builtUpper : upper.Built := by
    have built : Area.blank ⟨0, 0⟩ 1 1 = .ok upper := rfl
    exact .blank built
  have builtLower : lower.Built := by
    have built : Area.ofRows ⟨1, 0⟩ [[.number 2], [.number 3]] = .ok lower := rfl
    exact .ofRows built
  have blocks : column.RowBlocks 0 [upper, lower] := by
    refine .block ⟨rfl, fun row inRows col inCols => ?_⟩
      (.block ⟨rfl, fun row inRows col inCols => ?_⟩ .done)
    · obtain rfl : row = 0 := Nat.lt_one_iff.mp inRows
      obtain rfl : col = 0 := Nat.lt_one_iff.mp inCols
      rfl
    · obtain rfl : col = 0 := Nat.lt_one_iff.mp inCols
      match row, inRows with
      | 0, _ => rfl
      | 1, _ => rfl
  refine ⟨builtColumn, builtUpper, builtLower, blocks, fun ctx => ?_⟩
  exact ((aggregates_flatten ctx).1 product (by simp) [.text "5"] []).2 column [upper, lower]
    builtColumn (by simp [builtUpper, builtLower]) blocks

end Spreadsheet
