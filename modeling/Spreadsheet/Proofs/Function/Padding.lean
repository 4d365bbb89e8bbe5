import Spreadsheet.Proofs.Function.Alike
import Spreadsheet.Proofs.Number.Order
import Spreadsheet.Proofs.Value.Stored

/-! Whatever looks at an area sees the cells that it covers: whether blank cells are stored or left
out as padding makes no difference.
-/

namespace Spreadsheet

-- Equality of what is shown

/-- No number in a value is NaN, however deep in areas it stands. -/
inductive Value.NoNaN : Value → Prop
  | number {x : Float} (h : x.isNaN = false) : NoNaN (.number x)
  | text (t : String) : NoNaN (.text t)
  | boolean (b : Bool) : NoNaN (.boolean b)
  | error (e : CellError) : NoNaN (.error e)
  | blank : NoNaN .blank
  | missing : NoNaN .missing
  | area {a : Area Value} (cells : ∀ value ∈ a.cells, NoNaN value) : NoNaN (.area a)
  | union {areas : List (Area Value)} (cells : ∀ a ∈ areas, ∀ value ∈ a.cells, NoNaN value)
    : NoNaN (.union areas)

/-- Every value an area shows is a stored cell or blank. -/
theorem Area.valueAt_of_cells {a : Area Value} {P : Value → Prop} (blank : P .blank)
    (cells : ∀ value ∈ a.cells, P value) (index : Nat)
    : P (a.valueAt index) := by
  unfold valueAt
  cases found : a.stored? (index / a.width) (index % a.width) with
  | none => exact blank
  | some value => exact cells value (mem_of_stored? found)

/-- Areas are equal if they show equal values at the same cells. -/
theorem Value.beq_area {a b : Area Value} (origin : a.origin = b.origin)
    (height : a.height = b.height) (width : a.width = b.width)
    (shown : ∀ index < a.cellCount, beq (a.valueAt index) (b.valueAt index))
    : beq (.area a) (.area b) := by
  rw [beq]
  simp only [origin, height, width, BEq.rfl, Bool.true_and, Nat.all_eq_finRange_all,
    List.all_eq_true]
  exact fun index _ => shown index index.isLt

/-- A value without NaN equals itself, by induction on the value. -/
theorem Value.NoNaN.beq_self {value : Value} (h : value.NoNaN) : beq value value := by
  induction h with
  | number number =>
    rw [beq]
    exact Number.beq_self number
  | area cells ih =>
    exact beq_area rfl rfl rfl fun index _ => Area.valueAt_of_cells (by rw [beq]) ih index
  | union cells ih =>
    rw [beq]
    simp only [BEq.rfl, Bool.true_and, List.all_eq_true]
    intro pair paired
    obtain ⟨index, inside, same⟩ := List.mem_iff_getElem.mp paired
    rw [List.getElem_zip, List.getElem_attach] at same
    cases same
    exact beq_area rfl rfl rfl fun index _ =>
      Area.valueAt_of_cells (by rw [beq]) (ih _ (List.getElem_mem _)) index
  | _ => simp [beq]

-- What looks at areas

/-- Two areas cover the same cells, and nothing that looks at them tells which of their blank cells
are stored: neither implicit intersection, nor operations on whole areas, nor lists of dates, nor
functions of any number of arguments, nor equality.
-/
theorem Area.Built.indistinguishable {a b : Area Value} (ha : a.Built) (hb : b.Built)
    (same : a.SameCells b) (ctx : Context) (here : Position)
    : (Value.area a).resolve here = (Value.area b).resolve here
      ∧ a.intersect? here = b.intersect? here
      ∧ (∀ (m : Type → Type) [Monad m] [MonadExceptOf OperationError m],
        (∀ f : Value → m Value,
          Broadcast.lift₁ here (.area a) f = Broadcast.lift₁ here (.area b) f)
        ∧ ∀ (other : Value) (f : Value → Value → m Value),
          Broadcast.lift₂ here (.area a) other f = Broadcast.lift₂ here (.area b) other f
          ∧ Broadcast.lift₂ here other (.area a) f = Broadcast.lift₂ here other (.area b) f)
      ∧ (∀ system year, Value.dates system here (some (.area a)) year
        = Value.dates system here (some (.area b)) year)
      ∧ (∀ f ∈ [Function.sum, .product, .conjunction, .disjunction], ∀ before after : List Value,
        f.apply ctx (before ++ .area a :: after) = f.apply ctx (before ++ .area b :: after)
        ∧ ∀ left right : List (Area Value),
          f.apply ctx (before ++ .union (left ++ a :: right) :: after)
            = f.apply ctx (before ++ .union (left ++ b :: right) :: after))
      ∧ ((Value.area a).NoNaN → Value.area a == Value.area b) := by
  have alike : a.Alike b := same.alike ha.wellStored hb.wellStored
  have area : (Value.area a).Alike (.area b) := .area alike
  refine ⟨area.resolve, alike.intersect? here, fun m _ _ => ⟨fun f => area.lift₁ f, fun other f =>
    ⟨area.lift₂ (.same other) f, (Value.Alike.same other).lift₂ area f⟩⟩,
    fun system year => alike.dates system year,
    fun f aggregate before after => ⟨?_, fun left right => ?_⟩, ?_⟩
  · exact Function.apply_eq_of_aggregate aggregate (Value.Alike.correspondence ⟨rfl, rfl, rfl, rfl⟩)
      (forall₂_middle .same area before after)
  · exact Function.apply_eq_of_aggregate aggregate (Value.Alike.correspondence ⟨rfl, rfl, rfl, rfl⟩)
      (forall₂_middle .same (.union (forall₂_middle .refl alike left right)) before after)
  · intro noNaN
    cases noNaN with
    | area cells =>
      refine Value.beq_area same.origin same.height same.width fun index inside => ?_
      rw [← alike.valueAt inside]
      exact (Area.valueAt_of_cells .blank cells index).beq_self

/-- A number below a blank cell, once with both cells stored and once with the number only. -/
theorem Area.Built.indistinguishable_column
    : let whole : Area Value := ⟨⟨4, 2⟩, 2, 1, 0, 0, 2, 1, #[.blank, .number 1]⟩
      let padded : Area Value := ⟨⟨4, 2⟩, 2, 1, 1, 0, 1, 1, #[.number 1]⟩
      whole.Built ∧ padded.Built ∧ whole.SameCells padded
        ∧ ∀ ctx, Function.conjunction.apply ctx [.union [whole]]
          = Function.conjunction.apply ctx [.union [padded]] := by
  intro whole padded
  have builtWhole : whole.Built := by
    have built : Area.ofRows ⟨4, 2⟩ [[.blank], [.number 1]] = .ok whole := rfl
    exact .ofRows built
  have builtPadded : padded.Built := by
    let unfilled : Area Value := .unstored ⟨4, 2⟩ 2 1
    have built : Area.blank ⟨4, 2⟩ 2 1 = .ok unfilled := rfl
    have stored : unfilled.withBlock ⟨5, 2⟩ [[.number 1]] = .ok padded := rfl
    exact .withBlock (.blank built) stored
  have same : whole.SameCells padded := by
    refine sameCells_of_relative? rfl rfl rfl fun row inRows col inCols => ?_
    obtain rfl : col = 0 := Nat.lt_one_iff.mp inCols
    match row, inRows with
    | 0, _ => rfl
    | 1, _ => rfl
  refine ⟨builtWhole, builtPadded, same, fun ctx => ?_⟩
  obtain ⟨_, _, _, _, aggregates, _⟩ := builtWhole.indistinguishable builtPadded same ctx ctx.here
  exact (aggregates .conjunction (by simp) [] []).2 [] []

end Spreadsheet
