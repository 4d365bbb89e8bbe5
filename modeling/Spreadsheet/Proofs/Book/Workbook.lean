import Mathlib.Data.List.Nodup
import Mathlib.Logic.Relation
import Spreadsheet.Book.Workbook
import Spreadsheet.Proofs.Book.DefinedName
import Spreadsheet.Proofs.Outcome

/-! Workbooks that are built up by adding and renaming sheets and by setting cells. Every step keeps
the names of the sheets valid and different in any case, so that each sheet is found by its name.
-/

namespace Spreadsheet

-- Steps

/-- One cell of a sheet is set or emptied. -/
inductive Sheet.Update : Sheet → Sheet → Prop
  | set {sheet sheet'} (p : Position) (content : Content)
    (done : sheet.set p content = .ok sheet')
    : Update sheet sheet'
  | setAddress {sheet sheet'} (address : String) (content : Content)
    (done : sheet.setAddress address content = .ok sheet')
    : Update sheet sheet'
  | setFormula {sheet sheet'} (address text : String)
    (done : sheet.setFormula address text = .ok sheet')
    : Update sheet sheet'
  | setCalculated {sheet sheet'} (address text : String) (result : Content)
    (done : sheet.setCalculated address text result = .ok sheet')
    : Update sheet sheet'
  | clear (sheet) (p : Position) : Update sheet (sheet.clear p)

namespace Workbook

/-- A sheet is added or renamed, or a cell of a sheet is updated. What fails changes nothing. -/
inductive Step : Workbook → Workbook → Prop
  | addNumberedSheet {book book'} (done : book.addNumberedSheet = .ok book') : Step book book'
  | addSheet {book book'} (name : String) (done : book.addSheet name = .ok book') : Step book book'
  | renameSheet {book book'} (index : Nat) (name : String)
    (done : book.renameSheet index name = .ok book')
    : Step book book'
  | updateSheet {book sheet sheet'} (index : Nat) (found : book.sheets[index]? = some sheet)
    (updated : sheet.Update sheet')
    : Step book (book.setSheet index sheet')

/-- Some steps lead to the workbook from one without sheets or from a new one. -/
def Reachable (book : Workbook) : Prop :=
  ∃ start ∈ [empty, new], Relation.ReflTransGen Step start book

/-- A step, or a change of what belongs to no sheet: a name is defined, or the date system chosen.
-/
inductive Change : Workbook → Workbook → Prop
  | step {book book'} (step : Step book book') : Change book book'
  | defineName {book book'} (name text : String) (scope : Scope)
    (done : book.defineName name text scope = .ok book')
    : Change book book'
  | chooseDates (book) (dates : DateSystem) : Change book { book with dates }

/-- Some changes lead to the workbook from one without sheets or from a new one. -/
def Built (book : Workbook) : Prop :=
  ∃ start ∈ [empty, new], Relation.ReflTransGen Change start book

/-- The names of the sheets in lower case. -/
def lowerNames (book : Workbook) : List String :=
  book.sheets.map fun sheet => Text.lower sheet.name

/-- All sheets have valid names, no two of which are the same in lower case. -/
structure WellNamed (book : Workbook) : Prop where
  valid : ∀ sheet ∈ book.sheets, SheetName.fault? sheet.name = none
  distinct : book.lowerNames.Nodup

variable {book book' : Workbook} {sheet : Sheet} {name : String} {index : Nat} {own : Option Nat}

-- Looking sheets up by their names

theorem getElem?_lowerNames (book : Workbook) (index : Nat)
    : book.lowerNames[index]? = book.sheets[index]?.map fun sheet => Text.lower sheet.name :=
  List.getElem?_map

/-- A name that no sheet has in any case is not found. -/
theorem sheetIndex?_eq_none
    : book.sheetIndex? name = none ↔ Text.lower name ∉ book.lowerNames := by
  simp [sheetIndex?, lowerNames, List.findIdx?_eq_none_iff]

/-- What is found has the name, but for the case. -/
theorem getElem?_of_sheetIndex? (found : book.sheetIndex? name = some index)
    : book.lowerNames[index]? = some (Text.lower name) := by
  obtain ⟨inside, same, _⟩ := List.findIdx?_eq_some_iff_getElem.mp found
  rw [getElem?_lowerNames, List.getElem?_eq_getElem inside]
  exact congrArg some (by simpa using same)

/-- A sheet is found under every spelling of its name. -/
theorem WellNamed.sheetIndex? (h : book.WellNamed) (found : book.sheets[index]? = some sheet)
    (same : Text.lower sheet.name = Text.lower name)
    : book.sheetIndex? name = some index := by
  have here : book.lowerNames[index]? = some (Text.lower name) := by
    rw [getElem?_lowerNames, found, Option.map_some, same]
  cases looked : book.sheetIndex? name with
  | none => exact absurd (List.mem_of_getElem? here) (sheetIndex?_eq_none.mp looked)
  | some other =>
    have there := getElem?_of_sheetIndex? looked
    have inside := (List.getElem?_eq_some_iff.mp there).1
    exact congrArg some ((List.getElem?_inj inside h.distinct).mp (there.trans here.symm))

/-- A name without fault is valid, and no other sheet has it in any case. -/
theorem valid_of_nameFault? (h : book.nameFault? name own = none)
    : SheetName.fault? name = none
      ∧ (Text.lower name ∉ book.lowerNames
        ∨ ∃ index, own = some index ∧ book.lowerNames[index]? = some (Text.lower name)) := by
  unfold nameFault? at h
  split at h
  · cases h
  · next valid =>
    refine ⟨valid, ?_⟩
    split at h
    · next index looked =>
      split at h
      · next same => exact .inr ⟨index, same.symm, getElem?_of_sheetIndex? looked⟩
      · cases h
    · next looked => exact .inl (sheetIndex?_eq_none.mp looked)

-- What it takes to add and to rename a sheet

theorem checkName_eq_ok : book.checkName name own = .ok () ↔ book.nameFault? name own = none := by
  unfold checkName
  split <;> simp_all

theorem checkIndex_eq_ok : book.checkIndex index = .ok () ↔ index < book.sheets.length := by
  unfold checkIndex
  split <;> simp_all

theorem addSheet_eq_ok
    : book.addSheet name = .ok book' ↔ book.nameFault? name none = none
      ∧ book' = { book with sheets := book.sheets ++ [.blank name] } := by
  rw [addSheet, InPlace.addSheet, Mutation.result_get_bind, Mutation.result_check_modify_eq_ok,
    checkName_eq_ok]

theorem addNumberedSheet_eq (book : Workbook)
    : book.addNumberedSheet = book.addSheet book.freeName := by
  rw [addNumberedSheet, InPlace.addNumberedSheet, Mutation.result_get_bind, addSheet]

theorem renameSheet_eq_ok
    : book.renameSheet index name = .ok book' ↔ index < book.sheets.length
      ∧ book.nameFault? name (some index) = none
      ∧ book' = { book with
        sheets := book.sheets.modify index fun sheet => { sheet with name } } := by
  rw [renameSheet, InPlace.renameSheet, Mutation.result_get_bind, Mutation.result_check_bind,
    except_bind_eq_ok]
  simp only [Mutation.result_get_bind, Mutation.result_check_modify_eq_ok, checkName_eq_ok]
  constructor
  · rintro ⟨⟨⟩, inside, free, same⟩
    exact ⟨checkIndex_eq_ok.mp inside, free, same⟩
  · rintro ⟨inside, free, same⟩
    exact ⟨(), checkIndex_eq_ok.mpr inside, free, same⟩

-- What each step keeps

theorem wellNamed_empty : empty.WellNamed :=
  ⟨nofun, List.nodup_nil⟩

theorem wellNamed_new : new.WellNamed := by
  refine ⟨?_, List.nodup_singleton _⟩
  intro sheet mem
  obtain rfl := List.mem_singleton.mp mem
  decide

theorem WellNamed.addSheet (h : book.WellNamed) (done : book.addSheet name = .ok book')
    : book'.WellNamed := by
  obtain ⟨noFault, rfl⟩ := addSheet_eq_ok.mp done
  obtain ⟨valid, unused | ⟨_, own, _⟩⟩ := valid_of_nameFault? noFault
  · constructor
    · intro sheet mem
      rcases List.mem_append.mp mem with mem | mem
      · exact h.valid sheet mem
      · obtain rfl := List.mem_singleton.mp mem
        exact valid
    · have added := h.distinct.concat unused
      rw [List.concat_eq_append] at added
      simpa [lowerNames, Sheet.blank] using added
  · cases own

/-- The sheets of a workbook may change in any way that keeps their names. -/
theorem WellNamed.of_names (h : book.WellNamed)
    (same : book'.sheets.map Sheet.name = book.sheets.map Sheet.name)
    : book'.WellNamed := by
  constructor
  · intro sheet mem
    have named : sheet.name ∈ book.sheets.map Sheet.name := same ▸ List.mem_map_of_mem mem
    obtain ⟨old, inBook, name⟩ := List.mem_map.mp named
    exact name ▸ h.valid old inBook
  · have lower (book : Workbook)
        : book.lowerNames = (book.sheets.map Sheet.name).map Text.lower := by
      simp [lowerNames]
    rw [lower, same, ← lower]
    exact h.distinct

theorem lowerNames_rename (book : Workbook) (index : Nat) (name : String)
    : lowerNames { book with
        sheets := book.sheets.modify index fun sheet => { sheet with name } }
      = book.lowerNames.set index (Text.lower name) := by
  refine List.ext_getElem? fun i => ?_
  rw [getElem?_lowerNames, List.getElem?_modify, List.getElem?_set]
  by_cases here : index = i
  · subst here
    cases found : book.sheets[index]? with
    | none => simp [lowerNames, List.getElem?_eq_none_iff.mp found]
    | some sheet => simp [lowerNames, (List.getElem?_eq_some_iff.mp found).1]
  · rw [if_neg here, getElem?_lowerNames]
    simp [here]

/-- A sheet may be given its own name in another spelling, or one that no sheet has. -/
theorem WellNamed.renameSheet (h : book.WellNamed)
    (done : book.renameSheet index name = .ok book')
    : book'.WellNamed := by
  obtain ⟨_, noFault, rfl⟩ := renameSheet_eq_ok.mp done
  obtain ⟨valid, free⟩ := valid_of_nameFault? noFault
  constructor
  · intro sheet mem
    obtain ⟨i, found⟩ := List.mem_iff_getElem?.mp mem
    rw [List.getElem?_modify] at found
    obtain ⟨old, inBook, rfl⟩ := Option.map_eq_some_iff.mp found
    split
    · exact valid
    · exact h.valid old (List.mem_of_getElem? inBook)
  · rw [lowerNames_rename]
    rcases free with unused | ⟨_, own, here⟩
    · exact h.distinct.set unused
    · cases own
      obtain ⟨inside, same⟩ := List.getElem?_eq_some_iff.mp here
      rw [← same, List.set_getElem_self]
      exact h.distinct

theorem WellNamed.setSheet (h : book.WellNamed) (index : Nat) (sheet : Sheet)
    : (book.setSheet index sheet).WellNamed := by
  refine h.of_names (List.ext_getElem? fun i => ?_)
  rw [List.getElem?_map, List.getElem?_map, Workbook.setSheet, List.getElem?_modify]
  cases book.sheets[i]? with
  | none => rfl
  | some old =>
    refine congrArg some ?_
    dsimp only
    split <;> rfl

theorem WellNamed.step (h : book.WellNamed) (step : book.Step book') : book'.WellNamed := by
  cases step with
  | addNumberedSheet done =>
    rw [addNumberedSheet_eq] at done
    exact h.addSheet done
  | addSheet name done => exact h.addSheet done
  | renameSheet index name done => exact h.renameSheet done
  | updateSheet index found updated => exact h.setSheet index _

/-- The names of the sheets stay valid and different, by induction on the steps. -/
theorem Reachable.wellNamed (h : book.Reachable) : book.WellNamed := by
  obtain ⟨start, first, steps⟩ := h
  induction steps with
  | refl =>
    rcases List.mem_cons.mp first with rfl | first
    · exact wellNamed_empty
    · obtain rfl := List.mem_singleton.mp first
      exact wellNamed_new
  | tail _ step ih => exact ih.step step

theorem WellNamed.change (h : book.WellNamed) (change : book.Change book') : book'.WellNamed := by
  cases change with
  | step step => exact h.step step
  | defineName name text scope done =>
    obtain ⟨names, _, rfl⟩ := exists_define_of_defineName done
    exact h.of_names rfl
  | chooseDates dates => exact h.of_names rfl

/-- Nothing else that can be changed has an influence on the names either, by induction on the
changes.
-/
theorem Built.wellNamed (h : book.Built) : book.WellNamed := by
  obtain ⟨start, first, changes⟩ := h
  induction changes with
  | refl => exact Reachable.wellNamed ⟨start, first, .refl⟩
  | tail _ change ih => exact ih.change change

end Workbook

end Spreadsheet
