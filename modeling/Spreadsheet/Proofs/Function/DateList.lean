import Spreadsheet.Function.Date
import Spreadsheet.Proofs.Outcome
import Spreadsheet.Proofs.Value.Pointwise

/-! Lists of dates: an argument lists the values of its cells row by row and area by area, and the
dates are those of the values, however they are spread over areas.
-/

namespace Spreadsheet

variable {system : DateSystem} {here there : Position} {value : Value} {values : List Value}
  {a : Area Value}

theorem Value.date_of_isScalar (scalar : value.isScalar) (system : DateSystem)
    (here there : Position) (year : Int)
    : value.date system here year = value.date system there year := by
  rw [date, date, resolve_of_not_isArea (not_isArea_of_isScalar scalar)]

/-- The values of all cells covered, row by row. -/
def Area.allValues (a : Area Value) : List Value :=
  a.entries.map Prod.snd

/-- The values that an argument lists: none, a scalar, or the cells of areas that are not too large
to be listed.
-/
inductive Value.Lists : Option Value → List Value → Prop
  | none : Lists none []
  | missing : Lists (some .missing) []
  | scalar {value : Value} (scalar : value.isScalar) (given : value ≠ .missing)
    : Lists (some value) [value]
  | area {a : Area Value} (short : a.cellCount ≤ Value.maxCells)
    : Lists (some (.area a)) a.allValues
  | union {areas : List (Area Value)} (short : ∀ a ∈ areas, a.cellCount ≤ Value.maxCells)
    : Lists (some (.union areas)) (areas.flatMap Area.allValues)

theorem Area.dates_eq (short : a.cellCount ≤ Value.maxCells)
    (scalars : ∀ value ∈ a.allValues, value.isScalar) (here : Position) (year : Int)
    : a.dates system year = a.allValues.mapM (·.date system here year) := by
  rw [dates, if_neg (Nat.not_lt.mpr short), allValues, List.mapM_map]
  refine mapM_congr fun entry mem => ?_
  exact Value.date_of_isScalar (scalars _ (List.mem_map_of_mem mem)) system _ _ year

/-- A list of dates is read value by value, however the values are spread over areas. -/
theorem Value.Lists.dates {argument : Option Value} (lists : Lists argument values)
    (scalars : ∀ value ∈ values, value.isScalar) (system : DateSystem) (here : Position)
    (year : Int)
    : Value.dates system here argument year = values.mapM (·.date system here year) := by
  cases lists with
  | none => rfl
  | missing => rfl
  | @scalar value scalar given =>
    rw [List.mapM_cons, List.mapM_nil]
    cases value with
    | missing => exact absurd rfl given
    | area a => cases scalar
    | union areas => cases scalar
    | _ => rfl
  | area short => exact Area.dates_eq short scalars here year
  | @union areas short =>
    change areas.mapM (·.dates system year) >>= (fun lists => .ok lists.flatten) = _
    induction areas with
    | nil => rfl
    | cons a areas ih =>
      simp only [List.mem_cons, forall_eq_or_imp] at short
      simp only [List.flatMap_cons, List.mem_append, or_imp, forall_and] at scalars
      rw [List.flatMap_cons, List.mapM_append, ← ih short.2 scalars.2,
        ← Area.dates_eq short.1 scalars.1, List.mapM_cons]
      simp only [bind_assoc, pure_bind, List.flatten_cons]
      rfl

/-- Any list of scalars can be given as a union of single cells. -/
theorem Value.lists_singles (here : Position) (values : List Value)
    : Lists (some (.union (values.map (Area.single here)))) values := by
  have single (value : Value) : (Area.single here value).allValues = [value] := by
    simp [Area.allValues, Area.entries, Area.firstEntries, Area.cellCount, Area.valueAt,
      Area.stored?, Area.single]
  have listed : (values.map (Area.single here)).flatMap Area.allValues = values := by
    simp only [List.flatMap_map, single, List.flatMap_singleton']
  have lists : Lists (some (.union (values.map (Area.single here))))
      ((values.map (Area.single here)).flatMap Area.allValues) := by
    refine .union fun a mem => ?_
    obtain ⟨value, _, rfl⟩ := List.mem_map.mp mem
    exact (by decide : 1 ≤ Value.maxCells)
  rwa [listed] at lists

end Spreadsheet
