import Spreadsheet.Book.Workbook
import Spreadsheet.Proofs.Book.Mutation

/-! Names that are defined in a workbook are found in it. -/

namespace Spreadsheet

namespace NameTable

variable {table table' : NameTable} {d : DefinedName}

theorem atomic_define (d : DefinedName) : (InPlace.define d).Atomic :=
  Mutation.atomic_get_bind fun _ => Mutation.atomic_check_bind _ fun _ => Mutation.atomic_modify _

theorem checkNew_eq_ok
    : table.checkNew d = .ok () ↔ DefinedName.isValid d.name = true
      ∧ table.entries.contains (key d.name d.scope) = false := by
  unfold checkNew
  cases valid : DefinedName.isValid d.name with
  | false => simp
  | true =>
    cases taken : table.entries.contains (key d.name d.scope) with
    | true => simp
    | false => simp

/-- What it takes to define a name, and what comes of it. -/
theorem define_eq_ok
    : table.define d = .ok table' ↔ DefinedName.isValid d.name = true
      ∧ table.entries.contains (key d.name d.scope) = false
      ∧ table' = ⟨table.entries.insert (key d.name d.scope) d⟩ := by
  rw [define, InPlace.define, Mutation.result_get_bind, Mutation.result_check_modify_eq_ok,
    checkNew_eq_ok, and_assoc]

/-- A definition is found in its scope, and all others are found as before. -/
theorem find?_of_define (done : table.define d = .ok table') (n : String) (scope : Scope)
    : table'.find? n scope
      = if key d.name d.scope = key n scope then some d else table.find? n scope := by
  obtain ⟨_, _, rfl⟩ := define_eq_ok.mp done
  rw [find?, Std.HashMap.getElem?_insert]
  simp only [beq_iff_eq]
  rfl

/-- A definition for the whole workbook is found from each sheet that has none of its own. -/
theorem get?_of_define {sheet : Nat} (done : table.define d = .ok table')
    (shared : d.scope = .workbook) (free : table.find? d.name (.sheet sheet) = none)
    : table'.get? d.name sheet = some d := by
  have other : key d.name d.scope ≠ key d.name (.sheet sheet) := by
    simp [key, shared]
  rw [get?, find?_of_define done, find?_of_define done, if_neg other, free, if_pos (by rw [shared])]
  rfl

/-- A definition for one sheet is found from that sheet, whatever the whole workbook has. -/
theorem get?_of_define_own {sheet : Nat} (done : table.define d = .ok table')
    (own : d.scope = .sheet sheet)
    : table'.get? d.name sheet = some d := by
  rw [get?, find?_of_define done, if_pos (by rw [own])]
  rfl

/-- A definition for the whole workbook is hidden by one that a sheet has of its own. -/
theorem get?_of_define_hidden {sheet : Nat} {own : DefinedName}
    (done : table.define d = .ok table') (shared : d.scope = .workbook)
    (found : table.find? d.name (.sheet sheet) = some own)
    : table'.get? d.name sheet = some own := by
  have other : key d.name d.scope ≠ key d.name (.sheet sheet) := by
    simp [key, shared]
  rw [get?, find?_of_define done, if_neg other, found]
  rfl

end NameTable

namespace Workbook

variable {book book' : Workbook} {n text : String}

/-- The sheet that a name is defined for exists. -/
theorem lt_of_defineName {index : Nat} (done : book.defineName n text (.sheet index) = .ok book')
    : index < book.sheets.length := by
  refine Nat.lt_of_not_le fun outside => ?_
  have failed : book.defineName n text (.sheet index)
      = .error (.sheetOutOfBounds index book.sheets.length) := by
    rw [defineName, if_pos outside]
    rfl
  cases failed.symm.trans done

theorem defineName_eq_map {scope : Scope} (text : String)
    (inside : ∀ index, scope = .sheet index → index < book.sheets.length)
    : book.defineName n text scope
      = ((book.names.define (.ofText n text scope)).mapError .definedName).map
        fun names => { book with names } := by
  cases scope with
  | workbook => rfl
  | sheet index =>
    rw [defineName, if_neg (Nat.not_le.mpr (inside index rfl))]
    rfl

/-- A name that a workbook takes is defined in its table. -/
theorem exists_define_of_defineName {scope : Scope}
    (done : book.defineName n text scope = .ok book')
    : ∃ names, book.names.define (.ofText n text scope) = .ok names
      ∧ book' = { book with names } := by
  have inside (index : Nat) (own : scope = .sheet index) : index < book.sheets.length :=
    lt_of_defineName (own ▸ done)
  rw [defineName_eq_map text inside] at done
  cases defined : book.names.define (.ofText n text scope) with
  | error cause =>
    rw [defined] at done
    cases done
  | ok names =>
    rw [defined] at done
    cases done
    exact ⟨names, rfl, rfl⟩

theorem defineName_eq_ok
    : book.defineName n text .workbook = .ok book' ↔ ∃ names,
      book.names.define (.ofText n text .workbook) = .ok names ∧ book' = { book with names } := by
  refine ⟨exists_define_of_defineName, ?_⟩
  rintro ⟨names, defined, rfl⟩
  have nowhere (index : Nat) (own : Scope.workbook = .sheet index)
      : index < book.sheets.length := nomatch own
  rw [defineName_eq_map text nowhere, defined]
  rfl

/-- A workbook without names takes every valid one. -/
theorem exists_defineName (noNames : book.names = .empty) (valid : DefinedName.isValid n)
    (text : String)
    : ∃ names, book.defineName n text .workbook = .ok { book with names } := by
  have fresh : book.names.entries.contains (NameTable.key n .workbook) = false :=
    noNames ▸ Std.HashMap.contains_empty
  let d : DefinedName := .ofText n text .workbook
  have added : book.names.define d
      = .ok ⟨book.names.entries.insert (NameTable.key d.name d.scope) d⟩ :=
    NameTable.define_eq_ok.mpr ⟨valid, fresh, rfl⟩
  exact ⟨_, defineName_eq_ok.mpr ⟨_, added, rfl⟩⟩

end Workbook

end Spreadsheet
