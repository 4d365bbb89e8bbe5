import Mathlib.Data.List.Perm.Subperm
import Mathlib.Data.Nat.Digits.Defs
import Spreadsheet.Proofs.Book.SheetName
import Spreadsheet.Proofs.Book.Workbook
import Spreadsheet.Proofs.Number.Numeral

/-! Workbooks whose sheets are added and renamed. Whatever is done, their names stay valid and
different in any case, and there is always a numbered name for one more sheet: there are more
numbers to try than sheets that could have them.
-/

namespace Spreadsheet

-- Numbered names

namespace Text

/-- Without a capital sigma the lower case of a text is that of its characters, here of ASCII ones;
by induction on the text.
-/
theorem lowerAfter_of_ascii {cs : List Char} (ascii : ∀ c ∈ cs, c.toNat < 0x80) (before : List Char)
    : lowerAfter before cs = cs.map Char.toLower := by
  induction cs generalizing before with
  | nil => rfl
  | cons c rest ih =>
    simp only [List.mem_cons, forall_eq_or_imp] at ascii
    obtain ⟨first, others⟩ := ascii
    have noSigma : c ≠ 'Σ' := by
      rintro rfl
      exact absurd first (by decide)
    rw [lowerAfter, if_neg noSigma, Unicode.lower, if_pos first, ih others]
    rfl

end Text

namespace Workbook

variable {book book' : Workbook} {n m tries index : Nat} {name : String}

theorem toList_numberedName (n : Nat)
    : (numberedName n).toList = "Sheet".toList ++ Nat.toDigits 10 n := by
  simp [numberedName, Number.digitText]

/-- A numbered name is made of the letters of `Sheet` and of digits. -/
theorem mem_numberedName {c : Char} (mem : c ∈ (numberedName n).toList)
    : c ∈ "Sheet".toList ∨ c.isDigit := by
  rw [toList_numberedName] at mem
  exact (List.mem_append.mp mem).imp_right Number.Numeral.isDigit_of_mem_toDigits

theorem lower_numberedName (n : Nat)
    : Text.lower (numberedName n) = String.ofList ("sheet".toList ++ Nat.toDigits 10 n) := by
  have ascii : ∀ c ∈ (numberedName n).toList, c.toNat < 0x80 := by
    intro c mem
    rcases mem_numberedName mem with letter | digit
    · have letters : ∀ c ∈ "Sheet".toList, c.toNat < 0x80 := by simp
      exact letters c letter
    · exact Unicode.ascii_of_isDigit digit
  have digits : (Nat.toDigits 10 n).map Char.toLower = Nat.toDigits 10 n := by
    refine (List.map_congr_left fun c mem => ?_).trans (List.map_id _)
    exact Unicode.forall_digit (P := fun c => c.toLower = c) (by decide)
      (Number.Numeral.isDigit_of_mem_toDigits mem)
  rw [Text.lower, Text.lowerAfter_of_ascii ascii, toList_numberedName, List.map_append, digits]
  rfl

/-- Different numbers make names that differ in any case. -/
theorem lower_numberedName_injective : Function.Injective fun n => Text.lower (numberedName n) := by
  intro n m same
  simp only [lower_numberedName, String.ofList_inj, List.append_cancel_left_eq] at same
  rw [← Number.Numeral.digitsValue_toDigits n, same, Number.Numeral.digitsValue_toDigits]

/-- There are valid names for more numbers than a machine counts sheets with. -/
theorem valid_numberedName (countable : n < 0x20000000000000000)
    : SheetName.Valid (numberedName n) := by
  have plain {c : Char} (noLetter : c ∉ "Sheet".toList) (noDigit : c.isDigit = false)
      : c ∉ (numberedName n).toList := by
    intro mem
    rcases mem_numberedName mem with letter | digit
    · exact noLetter letter
    · cases noDigit.symm.trans digit
  have apostrophe : '\'' ∉ (numberedName n).toList := plain (by decide) (by decide)
  refine ⟨?_, ?_, ?_, fun first => ?_, fun last => ?_⟩
  · intro empty
    have chars := toList_numberedName n
    rw [empty] at chars
    cases chars
  · have digits : (Nat.toDigits 10 n).length ≤ 26 :=
      Nat.toDigits_length 10 n 26 (by decide) (Nat.lt_trans countable (by decide))
    rw [← String.length_toList, toList_numberedName, List.length_append]
    exact Nat.add_le_add_left digits 5
  · have forbidden : ∀ c ∈ SheetName.forbidden, c ∉ "Sheet".toList ∧ c.isDigit = false := by
      simp [SheetName.forbidden]
    exact fun c mem => plain (forbidden c mem).1 (forbidden c mem).2
  · exact apostrophe (List.mem_of_mem_head? first)
  · exact apostrophe (List.mem_of_getLast? last)

/-- Some sheet has the name with a number. -/
def Taken (book : Workbook) (n : Nat) : Prop :=
  Text.lower (numberedName n) ∈ book.lowerNames

theorem sheetIndex?_numberedName
    : book.sheetIndex? (numberedName n) = none ↔ ¬book.Taken n :=
  sheetIndex?_eq_none

/-- Not all of more numbers than there are sheets are taken: different numbers make different
names.
-/
theorem exists_not_taken (book : Workbook) (n : Nat)
    : ∃ m, n ≤ m ∧ m ≤ n + book.sheets.length ∧ ¬book.Taken m := by
  by_contra allTaken
  simp only [not_exists, not_and, not_not] at allTaken
  let tried := (List.range' n (book.sheets.length + 1)).map fun m => Text.lower (numberedName m)
  have distinct : tried.Nodup := (List.nodup_range' 1).map lower_numberedName_injective
  have taken : tried ⊆ book.lowerNames := by
    intro name mem
    obtain ⟨m, inRange, rfl⟩ := List.mem_map.mp mem
    obtain ⟨above, below⟩ := List.mem_range'_1.mp inRange
    exact allTaken m above (Nat.le_of_lt_succ below)
  have few := (distinct.subperm taken).length_le
  simp [tried, lowerNames] at few

/-- The search goes through numbers that are taken and stops at the first one that is free, by
induction on how many are tried.
-/
theorem freeNameFrom_eq (free : ∃ m, n ≤ m ∧ m ≤ n + tries ∧ ¬book.Taken m)
    : ∃ m, n ≤ m ∧ m ≤ n + tries ∧ ¬book.Taken m ∧ (∀ i, n ≤ i → i < m → book.Taken i)
      ∧ book.freeNameFrom n tries = numberedName m := by
  induction tries generalizing n with
  | zero =>
    obtain ⟨m, above, below, untaken⟩ := free
    obtain rfl : m = n := Nat.le_antisymm below above
    exact ⟨m, above, below, untaken, fun i _ _ => by omega, rfl⟩
  | succ tries ih =>
    obtain ⟨m, above, below, untaken⟩ := free
    cases looked : book.sheetIndex? (numberedName n) with
    | none =>
      refine ⟨n, Nat.le_refl n, Nat.le_add_right _ _, sheetIndex?_numberedName.mp looked, ?_, ?_⟩
      · exact fun i _ _ => by omega
      · rw [freeNameFrom, looked]
        rfl
    | some index =>
      have taken : book.Taken n := by
        by_contra untaken
        cases looked.symm.trans (sheetIndex?_numberedName.mpr untaken)
      have later : n ≠ m := fun same => untaken (same ▸ taken)
      obtain ⟨m', above', below', untaken', before, found⟩ :=
        ih (n := n + 1) ⟨m, by omega, by omega, untaken⟩
      refine ⟨m', by omega, by omega, untaken', fun i low high => ?_, ?_⟩
      · rcases Nat.eq_or_lt_of_le low with rfl | low
        · exact taken
        · exact before i low high
      · rw [freeNameFrom, looked]
        exact found

/-- A sheet can always be added; it gets the first number above that of the sheets that is free. -/
theorem exists_addNumberedSheet (book : Workbook)
    (countable : book.sheets.length < 0x10000000000000000)
    : ∃ n, book.sheets.length < n ∧ ¬book.Taken n
      ∧ (∀ m, book.sheets.length < m → m < n → book.Taken m)
      ∧ book.addNumberedSheet
        = .ok { book with sheets := book.sheets ++ [.blank (numberedName n)] } := by
  obtain ⟨n, above, below, untaken, before, found⟩ :=
    freeNameFrom_eq (book.exists_not_taken (book.sheets.length + 1))
  refine ⟨n, above, untaken, before, ?_⟩
  have valid : SheetName.fault? (numberedName n) = none :=
    SheetName.fault?_eq_none.mpr (valid_numberedName (by omega))
  have noFault : book.nameFault? (numberedName n) none = none := by
    rw [nameFault?, valid, sheetIndex?_numberedName.mpr untaken]
  rw [addNumberedSheet_eq, freeName, found, addSheet_eq_ok]
  exact ⟨noFault, rfl⟩

-- Edits

/-- A sheet is added, with a numbered name or a given one, or gets another name. -/
inductive Edit where
  | addNumbered
  | add (name : String)
  | rename (index : Nat) (name : String)

/-- The edit as it is carried out in place. -/
def Edit.perform : Edit → Mutation WorkbookError Workbook Unit
  | addNumbered => InPlace.addNumberedSheet
  | add name => InPlace.addSheet name
  | rename index name => InPlace.renameSheet index name

/-- The workbook after an edit that succeeds. -/
def edit (book : Workbook) (e : Edit) : Except WorkbookError Workbook :=
  e.perform.result book

/-- The workbook that an edit leaves, whether it succeeds or fails. -/
def afterEdit (book : Workbook) (e : Edit) : Workbook :=
  e.perform.after book

/-- The workbook after some edits. -/
def afterEdits (book : Workbook) (edits : List Edit) : Workbook :=
  edits.foldl afterEdit book

theorem step_of_edit {e : Edit} (done : book.edit e = .ok book') : book.Step book' := by
  cases e with
  | addNumbered => exact .addNumberedSheet done
  | add name => exact .addSheet name done
  | rename index name => exact .renameSheet index name done

theorem atomic_addSheet (name : String) : (InPlace.addSheet name).Atomic :=
  Mutation.atomic_get_bind fun _ => Mutation.atomic_check_bind _ fun _ => Mutation.atomic_modify _

/-- All edits look at the index and the name before they change anything. -/
theorem Edit.atomic (e : Edit) : e.perform.Atomic := by
  cases e with
  | addNumbered => exact Mutation.atomic_get_bind fun book => atomic_addSheet book.freeName
  | add name => exact atomic_addSheet name
  | rename index name =>
    refine Mutation.atomic_get_bind fun _ => Mutation.atomic_check_bind _ fun _ => ?_
    exact Mutation.atomic_get_bind fun _ => Mutation.atomic_check_bind _ fun _ =>
      Mutation.atomic_modify _

/-- Edits are steps or change nothing, by induction on the edits. -/
theorem steps_afterEdits (book : Workbook) (edits : List Edit)
    : Relation.ReflTransGen Step book (book.afterEdits edits) := by
  induction edits generalizing book with
  | nil => exact .refl
  | cons e later ih =>
    cases result : book.edit e with
    | error cause =>
      have same : book.afterEdits (e :: later) = book.afterEdits later :=
        congrArg (afterEdits · later) (e.atomic book cause result)
      exact same ▸ ih book
    | ok book' =>
      have next : book.afterEdits (e :: later) = book'.afterEdits later :=
        congrArg (afterEdits · later) (Mutation.after_of_result result)
      exact next ▸ .head (step_of_edit result) (ih book')

/-- A sheet that gets another name keeps all else, and so do the other sheets and the workbook. -/
theorem exists_set_of_renameSheet (done : book.renameSheet index name = .ok book')
    : ∃ sheet, book.sheets[index]? = some sheet
      ∧ book' = { book with sheets := book.sheets.set index { sheet with name } } := by
  obtain ⟨inside, _, rfl⟩ := renameSheet_eq_ok.mp done
  obtain ⟨sheet, found⟩ : ∃ sheet, book.sheets[index]? = some sheet :=
    ⟨_, List.getElem?_eq_getElem inside⟩
  refine ⟨sheet, found, ?_⟩
  rw [List.modify_eq_set_getElem?, found]
  rfl

/-- Whatever sheets are added and renamed, their names keep the rules and differ in any case, so
that each sheet is found under every spelling of its name. An edit that fails changes nothing, and a
new name nothing but the name. As long as a machine word counts the sheets there is a numbered name
for one more, the first above their number that none of them has.
-/
theorem edited_sheets {start : Workbook} (first : start ∈ [empty, new]) (edits : List Edit)
    : let book := start.afterEdits edits
      (∀ sheet ∈ book.sheets, SheetName.Valid sheet.name) ∧ book.lowerNames.Nodup
      ∧ (∀ (i : Nat) (sheet : Sheet) (name : String), book.sheets[i]? = some sheet
        → Text.lower name = Text.lower sheet.name → book.sheetIndex? name = some i)
      ∧ (∀ e cause, book.edit e = .error cause → book.afterEdit e = book)
      ∧ (∀ index name book', book.renameSheet index name = .ok book'
        → ∃ sheet, book.sheets[index]? = some sheet
          ∧ book' = { book with sheets := book.sheets.set index { sheet with name } })
      ∧ (book.sheets.length < 0x10000000000000000
        → ∃ n, book.sheets.length < n ∧ book.sheetIndex? (numberedName n) = none
          ∧ (∀ m, book.sheets.length < m → m < n
            → ∃ i, book.sheetIndex? (numberedName m) = some i)
          ∧ book.addNumberedSheet
            = .ok { book with sheets := book.sheets ++ [.blank (numberedName n)] }) := by
  intro book
  have reachable : book.Reachable := ⟨start, first, start.steps_afterEdits edits⟩
  have wellNamed : book.WellNamed := reachable.wellNamed
  refine ⟨?_, wellNamed.distinct, ?_, ?_, ?_, fun countable => ?_⟩
  · exact fun sheet mem => SheetName.fault?_eq_none.mp (wellNamed.valid sheet mem)
  · exact fun i sheet name found same => wellNamed.sheetIndex? found same.symm
  · exact fun e cause failed => e.atomic book cause failed
  · exact fun index name book' done => exists_set_of_renameSheet done
  · obtain ⟨n, above, free, taken, added⟩ := book.exists_addNumberedSheet countable
    refine ⟨n, above, sheetIndex?_numberedName.mpr free, fun m low high => ?_, added⟩
    refine Option.ne_none_iff_exists'.mp fun notFound => ?_
    exact sheetIndex?_numberedName.mp notFound (taken m low high)

/-- A number is skipped that a sheet has taken, and a name is refused that differs in case only. -/
theorem edited_sheets_skip
    : let edits : List Edit := [.rename 0 "sheet3", .addNumbered, .add "SHEET3", .addNumbered]
      let book := new.afterEdits edits
      new ∈ [empty, new] ∧ book.sheets.map Sheet.name = ["sheet3", "Sheet2", "Sheet4"]
        ∧ book.sheetIndex? "SHEET4" = some 2 := by
  intro edits book
  have first : new ∈ [empty, new] := List.mem_cons_of_mem _ List.mem_cons_self
  have names : book.sheets.map Sheet.name = ["sheet3", "Sheet2", "Sheet4"] := by
    with_unfolding_all rfl
  obtain ⟨_, _, found, _⟩ := edited_sheets first edits
  refine ⟨first, names, ?_⟩
  have last : book.sheets[2]? = some (.blank "Sheet4") := by
    with_unfolding_all rfl
  exact found 2 (.blank "Sheet4") "SHEET4" last (by decide +kernel)

end Workbook

end Spreadsheet
