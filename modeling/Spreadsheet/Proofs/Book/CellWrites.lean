import Mathlib.Data.Finset.Card
import Mathlib.Logic.Function.Basic
import Spreadsheet.Proofs.Book.Sheet
import Spreadsheet.Proofs.Grid.Address

/-! Sheets that are written cell by cell. Whatever is written, a sheet is a map from positions to
contents: each cell holds what it was given last, and the number of cells and the used range are
those of the cells that are not empty.
-/

namespace Spreadsheet

instance (p : Position) : Decidable p.InGrid :=
  inferInstanceAs (Decidable (_ ∧ _))

namespace Sheet

-- Writes

/-- A cell is set, by its position or its address, or emptied. -/
inductive Write where
  | set (p : Position) (content : Content)
  | setAddress (address : String) (content : Content)
  | setFormula (address text : String)
  | setCalculated (address text : String) (result : Content)
  | clear (p : Position)

namespace Write

/-- The cell that a write changes; there is none if its position is outside the grid or its address
malformed. A cell is emptied without a check.
-/
def target? : Write → Option Position
  | set p _ => if p.InGrid then some p else none
  | setAddress address _ | setFormula address _ | setCalculated address _ _ =>
    (Address.parse address).toOption.map Address.position
  | clear p => some p

/-- The content that the cell of a write is given. -/
def content : Write → Content
  | set _ content | setAddress _ content => content
  | setFormula _ text => .formula (formulaSource text)
  | setCalculated _ text result => .calculated (formulaSource text) result
  | clear _ => .empty

/-- The last content that some writes, the first of them in front, give a cell. -/
def last? (p : Position) : List Write → Option Content
  | [] => none
  | w :: later => (last? p later).or (if w.target? = some p then some w.content else none)

end Write

/-- The write as it is carried out in place. -/
def Write.perform : Write → Mutation AddressError Sheet Unit
  | set p content => InPlace.set p content
  | setAddress address content => InPlace.setAddress address content
  | setFormula address text => InPlace.setFormula address text
  | setCalculated address text result => InPlace.setCalculated address text result
  | clear p => modify fun sheet => sheet.clear p

/-- The sheet after a write that succeeds. -/
def write (sheet : Sheet) (w : Write) : Except AddressError Sheet :=
  w.perform.result sheet

/-- The sheet that a write leaves, whether it succeeds or fails. -/
def afterWrite (sheet : Sheet) (w : Write) : Sheet :=
  w.perform.after sheet

/-- The sheet after some writes. -/
def afterWrites (sheet : Sheet) (writes : List Write) : Sheet :=
  writes.foldl afterWrite sheet

variable {sheet sheet' : Sheet} {p : Position} {content : Content} {w : Write}

-- What one write does

/-- No cell is kept that is empty. -/
def Tidy (sheet : Sheet) : Prop :=
  ∀ p, sheet.cells.get? p ≠ some .empty

/-- One cell is given a content, and all else stays. -/
structure Stores (sheet sheet' : Sheet) (p : Position) (content : Content) : Prop where
  name : sheet'.name = sheet.name
  get : sheet'.get = Function.update sheet.get p content
  tidy : sheet.Tidy → sheet'.Tidy

theorem stores_clear (sheet : Sheet) (p : Position) : sheet.Stores (sheet.clear p) p .empty where
  name := rfl
  get := by
    funext q
    rw [Sheet.get, clear, Cells.get?_erase, Function.update_apply]
    by_cases same : p = q
    · rw [if_pos same, if_pos same.symm, Option.getD_none]
    · rw [if_neg same, if_neg (Ne.symm same), Sheet.get]
  tidy tidy q := by
    rw [clear, Cells.get?_erase]
    split
    · exact (Option.some_ne_none _).symm
    · exact tidy q

theorem stores_insert (sheet : Sheet) (p : Position) (filled : content ≠ .empty)
    : sheet.Stores { sheet with cells := sheet.cells.insert p content } p content where
  name := rfl
  get := by
    funext q
    rw [Sheet.get, Cells.get?_insert, Function.update_apply]
    by_cases same : p = q
    · rw [if_pos same, if_pos same.symm, Option.getD_some]
    · rw [if_neg same, if_neg (Ne.symm same), Sheet.get]
  tidy tidy q := by
    rw [Cells.get?_insert]
    split
    · exact fun same => filled (Option.some.inj same)
    · exact tidy q

theorem stores_put (sheet : Sheet) (p : Position) (content : Content)
    : sheet.Stores (sheet.put p content) p content := by
  cases content with
  | empty => exact sheet.stores_clear p
  | boolean | number | text | error | formula | calculated => exact sheet.stores_insert p nofun

/-- A cell of the grid can be set, whatever it is given. -/
theorem exists_set (sheet : Sheet) (inGrid : p.InGrid) (content : Content)
    : ∃ sheet', sheet.set p content = .ok sheet' ∧ sheet.Stores sheet' p content :=
  ⟨_, set_eq_ok.mpr ⟨inGrid, rfl⟩, sheet.stores_put p content⟩

theorem set_outside (sheet : Sheet) (outside : ¬p.InGrid) (content : Content)
    : ∃ cause, sheet.set p content = .error cause := by
  cases result : sheet.set p content with
  | error cause => exact ⟨cause, rfl⟩
  | ok sheet' => exact absurd (set_eq_ok.mp result).1 outside

theorem setAddress_eq (sheet : Sheet) (address : String) (content : Content)
    : sheet.setAddress address content
      = Address.parse address >>= fun a => sheet.set a.position content := by
  rw [setAddress, InPlace.setAddress, Mutation.result_check_bind]
  rfl

/-- The cell at an address can be set unless the address is malformed. -/
theorem setAddress_cases (sheet : Sheet) (address : String) (content : Content)
    : let target? := (Address.parse address).toOption.map Address.position
      (∃ p sheet', target? = some p ∧ sheet.setAddress address content = .ok sheet'
          ∧ sheet.Stores sheet' p content)
        ∨ target? = none ∧ ∃ cause, sheet.setAddress address content = .error cause := by
  rw [setAddress_eq]
  cases parsed : Address.parse address with
  | error cause => exact .inr ⟨rfl, cause, rfl⟩
  | ok a =>
    obtain ⟨sheet', done, stores⟩ := sheet.exists_set (Address.inGrid_of_parse parsed) content
    exact .inl ⟨a.position, sheet', rfl, done, stores⟩

/-- A write gives its cell a content if it has a cell, and fails otherwise, by cases on what is
written.
-/
theorem write_cases (sheet : Sheet) (w : Write)
    : (∃ p sheet', w.target? = some p ∧ sheet.write w = .ok sheet'
        ∧ sheet.Stores sheet' p w.content)
      ∨ w.target? = none ∧ ∃ cause, sheet.write w = .error cause := by
  cases w with
  | set p content =>
    by_cases inGrid : p.InGrid
    · obtain ⟨sheet', done, stores⟩ := sheet.exists_set inGrid content
      exact .inl ⟨p, sheet', if_pos inGrid, done, stores⟩
    · exact .inr ⟨if_neg inGrid, sheet.set_outside inGrid content⟩
  | setAddress address content => exact sheet.setAddress_cases address content
  | setFormula address text => exact sheet.setAddress_cases address _
  | setCalculated address text result => exact sheet.setAddress_cases address _
  | clear p => exact .inl ⟨p, sheet.clear p, rfl, rfl, sheet.stores_clear p⟩

theorem afterWrite_of_ok (done : sheet.write w = .ok sheet') : sheet.afterWrite w = sheet' :=
  Mutation.after_of_result done

theorem atomic_setAddress (address : String) (content : Content)
    : (InPlace.setAddress address content).Atomic :=
  Mutation.atomic_check_bind _ fun a => atomic_set a.position content

/-- All writes look at the address before they change anything. -/
theorem Write.atomic (w : Write) : w.perform.Atomic := by
  cases w with
  | set p content => exact atomic_set p content
  | setAddress address content => exact atomic_setAddress address content
  | setFormula address text => exact atomic_setAddress address _
  | setCalculated address text result => exact atomic_setAddress address _
  | clear p => exact Mutation.atomic_modify _

theorem afterWrite_of_error {cause : AddressError} (failed : sheet.write w = .error cause)
    : sheet.afterWrite w = sheet :=
  w.atomic sheet cause failed

-- What some writes do

theorem tidy_blank (name : String) : (blank name).Tidy := by
  intro p
  rw [blank, Cells.get?_empty]
  nofun

theorem Tidy.afterWrite (tidy : sheet.Tidy) (w : Write) : (sheet.afterWrite w).Tidy := by
  rcases sheet.write_cases w with ⟨_, _, _, done, stores⟩ | ⟨_, _, failed⟩
  · rw [afterWrite_of_ok done]
    exact stores.tidy tidy
  · rw [afterWrite_of_error failed]
    exact tidy

/-- No cell is kept that is empty, by induction on the writes. -/
theorem Tidy.afterWrites (tidy : sheet.Tidy) (writes : List Write)
    : (sheet.afterWrites writes).Tidy := by
  induction writes generalizing sheet with
  | nil => exact tidy
  | cons w later ih => exact ih (tidy.afterWrite w)

theorem InGrid.setAddress {address : String} (inGrid : sheet.InGrid)
    (done : sheet.setAddress address content = .ok sheet')
    : sheet'.InGrid := by
  rw [setAddress_eq] at done
  obtain ⟨a, _, set⟩ := except_bind_eq_ok.mp done
  exact inGrid.set set

/-- Every write that succeeds keeps all cells in the grid. -/
theorem InGrid.write (inGrid : sheet.InGrid) (done : sheet.write w = .ok sheet')
    : sheet'.InGrid := by
  cases w with
  | set p content => exact inGrid.set done
  | setAddress address content => exact inGrid.setAddress done
  | setFormula address text => exact inGrid.setAddress done
  | setCalculated address text result => exact inGrid.setAddress done
  | clear p =>
    cases done
    exact inGrid.clear p

/-- All cells stay in the grid, whatever is written and whatever fails, by induction on the writes.
-/
theorem InGrid.afterWrites (inGrid : sheet.InGrid) (writes : List Write)
    : (sheet.afterWrites writes).InGrid := by
  induction writes generalizing sheet with
  | nil => exact inGrid
  | cons w later ih =>
    refine ih ?_
    cases result : sheet.write w with
    | ok sheet' =>
      rw [afterWrite_of_ok result]
      exact inGrid.write result
    | error cause =>
      rw [afterWrite_of_error result]
      exact inGrid

/-- After some writes each cell holds the last content that it was given, and what it held before
if it was given none, by induction on the writes.
-/
theorem get_afterWrites (sheet : Sheet) (writes : List Write) (p : Position)
    : (sheet.afterWrites writes).get p = (Write.last? p writes).getD (sheet.get p) := by
  induction writes generalizing sheet with
  | nil => rfl
  | cons w later ih =>
    have rest : (sheet.afterWrites (w :: later)).get p
        = (Write.last? p later).getD ((sheet.afterWrite w).get p) := ih (sheet.afterWrite w)
    have first : (sheet.afterWrite w).get p
        = (if w.target? = some p then some w.content else none).getD (sheet.get p) := by
      rcases sheet.write_cases w with ⟨q, sheet', target, done, stores⟩ | ⟨noTarget, _, failed⟩
      · rw [afterWrite_of_ok done, stores.get, Function.update_apply, target]
        by_cases here : p = q
        · simp [here]
        · simp [here, Ne.symm here]
      · simp [afterWrite_of_error failed, noTarget]
    rw [rest, first, Write.last?]
    cases Write.last? p later with
    | none => rfl
    | some content => rfl

theorem getAddress_eq (sheet : Sheet) (address : String)
    : sheet.getAddress address
      = (Address.parse address).map fun a => sheet.get a.position := by
  rw [getAddress]
  cases Address.parse address <;> rfl

-- The cells that are not empty

theorem Tidy.mem_iff (tidy : sheet.Tidy) : p ∈ sheet.cells ↔ sheet.get p ≠ .empty := by
  rw [Sheet.get]
  cases held : sheet.cells.get? p with
  | none => simp [Cells.get?_eq_none.mp held]
  | some content =>
    have filled : content ≠ .empty := fun same => tidy p (same ▸ held)
    simpa [Cells.mem_iff, held] using filled

theorem Tidy.usedRange?_eq_none (tidy : sheet.Tidy)
    : sheet.usedRange? = none ↔ ∀ p, sheet.get p = .empty := by
  rw [Sheet.usedRange?, Cells.boundingRange?_eq_none]
  refine forall_congr' fun p => ?_
  rw [tidy.mem_iff, not_not]

theorem Tidy.contains_usedRange?_iff {used : Range} (tidy : sheet.Tidy)
    (found : sheet.usedRange? = some used)
    : used.contains p
      ↔ ∀ r : Range, (∀ q, sheet.get q ≠ .empty → r.contains q) → r.contains p := by
  rw [Cells.contains_boundingRange?_iff found]
  simp only [tidy.mem_iff]

theorem Tidy.card_eq_cellCount (tidy : sheet.Tidy)
    : ∃ filled : Finset Position, (∀ p, p ∈ filled ↔ sheet.get p ≠ .empty)
      ∧ filled.card = sheet.cellCount := by
  refine ⟨⟨sheet.cells.positions, sheet.cells.nodup_positions⟩, fun p => ?_, ?_⟩
  · exact Cells.mem_positions.trans tidy.mem_iff
  · exact sheet.cells.length_positions

/-- After any writes to a blank sheet a cell holds what it was given last, by its position and by
every address of it. A further write fails and changes nothing if its address is malformed or
outside the grid, and changes no cell but its own otherwise. The cells that are not empty lie in the
grid and are counted, and the used range is the smallest one that covers them all.
-/
theorem written_cells (name : String) (writes : List Write)
    : let sheet := (blank name).afterWrites writes
      (∀ p, sheet.get p = (Write.last? p writes).getD .empty)
      ∧ (∀ address, sheet.getAddress address
        = (Address.parse address).map fun a => (Write.last? a.position writes).getD .empty)
      ∧ (∀ w, w.target? = none
        → (∃ cause, sheet.write w = .error cause) ∧ sheet.afterWrite w = sheet)
      ∧ (∀ w p, w.target? = some p
        → ∃ sheet', sheet.write w = .ok sheet' ∧ sheet.afterWrite w = sheet'
          ∧ sheet'.name = sheet.name ∧ sheet'.get = Function.update sheet.get p w.content)
      ∧ (∀ p, sheet.get p ≠ .empty → p.InGrid)
      ∧ (∃ filled : Finset Position, (∀ p, p ∈ filled ↔ sheet.get p ≠ .empty)
        ∧ filled.card = sheet.cellCount)
      ∧ (sheet.usedRange? = none ↔ ∀ p, sheet.get p = .empty)
      ∧ ∀ used, sheet.usedRange? = some used
        → (∀ p, sheet.get p ≠ .empty → used.contains p)
          ∧ ∀ r : Range, (∀ p, sheet.get p ≠ .empty → r.contains p)
            → ∀ p, used.contains p → r.contains p := by
  intro sheet
  have tidy : sheet.Tidy := (tidy_blank name).afterWrites writes
  have held (p : Position) : sheet.get p = (Write.last? p writes).getD .empty :=
    get_afterWrites (blank name) writes p
  have inGrid : sheet.InGrid := (inGrid_blank name).afterWrites writes
  refine ⟨held, ?_, ?_, ?_, ?_, tidy.card_eq_cellCount, tidy.usedRange?_eq_none, ?_⟩
  · intro address
    simp only [← held]
    exact sheet.getAddress_eq address
  · intro w noTarget
    rcases sheet.write_cases w with ⟨p, _, target, _⟩ | ⟨_, cause, failed⟩
    · cases noTarget.symm.trans target
    · exact ⟨⟨cause, failed⟩, afterWrite_of_error failed⟩
  · intro w p target
    rcases sheet.write_cases w with ⟨q, sheet', target', done, stores⟩ | ⟨noTarget, _⟩
    · cases target.symm.trans target'
      exact ⟨sheet', done, afterWrite_of_ok done, stores.name, stores.get⟩
    · cases noTarget.symm.trans target
  · exact fun p filled => inGrid p (tidy.mem_iff.mpr filled)
  · intro used found
    refine ⟨fun p filled => ?_, fun r covers p inside => ?_⟩
    · exact (tidy.contains_usedRange?_iff found).mpr fun r covers => covers p filled
    · exact (tidy.contains_usedRange?_iff found).mp inside r covers

/-- A cell is set and emptied, two writes fail, and a formula is the last to be stored. -/
theorem written_cells_emptied
    : let writes : List Write := [.set ⟨1, 1⟩ (.number 1), .setAddress "C2" (.text "x"),
        .setAddress "B2" .empty, .setAddress "A0" (.number 2), .set ⟨maxRows, 0⟩ (.number 3),
        .setFormula "B5" "1+1"]
      let sheet := (blank "Data").afterWrites writes
      sheet.get ⟨1, 1⟩ = .empty ∧ sheet.getAddress "$c2" = .ok (.text "x")
        ∧ sheet.get ⟨1, 2⟩ = .text "x" ∧ sheet.get ⟨4, 1⟩ = .formula "=1+1"
        ∧ sheet.usedRange? ≠ none := by
  intro writes sheet
  obtain ⟨stored, byAddress, _, _, _, _, unused, _⟩ := written_cells "Data" writes
  have formula : sheet.get ⟨4, 1⟩ = .formula "=1+1" :=
    (stored ⟨4, 1⟩).trans (by with_unfolding_all rfl)
  refine ⟨(stored ⟨1, 1⟩).trans ?_, (byAddress "$c2").trans ?_, (stored ⟨1, 2⟩).trans ?_, formula,
    fun noRange => ?_⟩
  · with_unfolding_all rfl
  · with_unfolding_all rfl
  · with_unfolding_all rfl
  · cases formula.symm.trans (unused.mp noRange ⟨4, 1⟩)

end Sheet

end Spreadsheet
