import Spreadsheet.Proofs.Book.CellWrites
import Spreadsheet.Proofs.Evaluation.Locality
import Spreadsheet.Proofs.Evaluation.SheetByName

/-! Results that are stored with their formulas. A value goes into a cell and is seen again as it
was, but for blanks and NaN, and whatever does not refer to the cell is evaluated as before.
-/

namespace Spreadsheet

variable {book : Workbook} {sheet sheet' : Sheet} {i : Nat} {r : Range} {p : Position} {v : Value}

-- Values in cells

/-- What is seen of a value that was stored in a cell: an argument that was left out is no more than
a blank there, and NaN is an error.
-/
def Value.kept : Value → Value
  | number x => if x.isNaN then error .num else number x
  | missing => blank
  | value => value

theorem Value.ofContent_calculated (text : String) (scalar : v.isScalar)
    : ofContent (.calculated text v.toContent) = v.kept := by
  cases v with
  | area a => cases scalar
  | union areas => cases scalar
  | _ => rfl

/-- What an ordinary formula shows is a single value. -/
theorem Context.isScalar_of_evaluateFormula {ctx : Context} {text : String}
    (ordinary : ctx.arrayMode = false) (evaluated : ctx.evaluateFormula text = .ok v)
    : v.isScalar := by
  obtain ⟨e, _, shown⟩ := except_bind_eq_ok.mp evaluated
  obtain ⟨value, _, same⟩ := except_bind_eq_ok.mp shown
  cases same
  rw [Context.shown, ordinary]
  exact Value.isScalar_ofExcept fun _ seen => (Value.isScalar_of_resolve seen).1

-- A workbook with one sheet replaced

theorem Sheet.Stores.sameIn {content : Content} (stores : sheet.Stores sheet' p content)
    (outside : ¬r.contains p)
    : SameIn r sheet sheet' := by
  intro q inside
  have apart : q ≠ p := by
    rintro rfl
    exact outside inside
  rw [stores.get, Function.update_of_ne apart]

/-- Small ranges are read alike from sheets that hold the same in them. -/
theorem Sheet.SameIn.area_of_small (same : SameIn r sheet sheet') (small : r.cellCount ≤ denseLimit)
    : sheet.area r = sheet'.area r := by
  rw [area, area, if_pos small, if_pos small, same.values]

namespace Workbook

theorem getElem?_setSheet_of_ne {k : Nat} (other : i ≠ k)
    : (book.setSheet i sheet').sheets[k]? = book.sheets[k]? :=
  List.getElem?_modify_ne _ _ other

/-- The sheet replaced is there, and its own name with it. -/
theorem getElem?_setSheet_self (found : book.sheets[i]? = some sheet)
    (named : sheet'.name = sheet.name)
    : (book.setSheet i sheet').sheets[i]? = some sheet' := by
  rw [setSheet, List.getElem?_modify_eq, found, Option.map_eq_map, Option.map_some, ← named]

theorem sameFrame_setSheet (book : Workbook) (i : Nat) (sheet' : Sheet)
    : book.SameFrame (book.setSheet i sheet') where
  sheetNames := by
    refine List.ext_getElem? fun k => ?_
    rw [List.getElem?_map, List.getElem?_map, setSheet, List.getElem?_modify]
    cases book.sheets[k]? with
    | none => rfl
    | some old =>
      refine congrArg some ?_
      dsimp only
      split <;> rfl
  definedNames _ _ := rfl
  dates := rfl

/-- Small ranges are read as before on the sheets that were not replaced, and on the one that was if
it holds the same in them.
-/
theorem areaAt_setSheet (found : book.sheets[i]? = some sheet) (named : sheet'.name = sheet.name)
    (small : r.cellCount ≤ denseLimit) {k : Nat} (same : i = k → Sheet.SameIn r sheet sheet')
    : (book.setSheet i sheet').areaAt r k = book.areaAt r k := by
  by_cases here : i = k
  · subst here
    rw [areaAt, areaAt, getElem?_setSheet_self found named, found]
    exact ((same rfl).area_of_small small).symm
  · rw [areaAt, areaAt, getElem?_setSheet_of_ne here]

end Workbook

namespace Context

variable {ref : Option SheetRef} {e : Expr}

/-- A reference depends on nothing but the areas that it leads to. -/
theorem evaluate_congr_of_areas {ctx ctx' : Context} (refers : e.RefersTo ref r)
    (same : ctx.areas ref r = ctx'.areas ref r)
    : ctx.evaluate e = ctx'.evaluate e := by
  rcases refers with rfl | ⟨a, rfl, rfl⟩
  · rw [evaluate_range, evaluate_range, rangeValue, rangeValue, same]
  · rw [evaluate, evaluate, evaluateWithin, evaluateWithin, Expr.eval, Expr.eval, cellValue,
      cellValue, same]

/-- A small range is evaluated as before wherever it does not cover the one cell that changed. -/
theorem evaluate_inBook_setSheet {content : Content} (ctx : Context)
    (found : book.sheets[i]? = some sheet) (stores : sheet.Stores sheet' p content)
    (refers : e.RefersTo ref r) (small : r.cellCount ≤ denseLimit)
    (apart : ∀ indices, ctx.sheets book ref = .ok indices → i ∈ indices → ¬r.contains p)
    : (ctx.inBook (book.setSheet i sheet')).evaluate e = (ctx.inBook book).evaluate e := by
  refine evaluate_congr_of_areas refers ?_
  have sheets : (ctx.inBook (book.setSheet i sheet')).sheets (book.setSheet i sheet') ref
      = (ctx.inBook book).sheets book ref :=
    (sheets_eq (book.sameFrame_setSheet i sheet')).symm
  rw [areas_of_book rfl, areas_of_book rfl, sheets]
  cases named : (ctx.inBook book).sheets book ref with
  | error e => rfl
  | ok indices =>
    refine mapM_congr fun k mem => Workbook.areaAt_setSheet found stores.name small ?_
    rintro rfl
    exact stores.sameIn (apart indices named mem)

/-- The result of a formula is stored with it at the cell that it was evaluated for. The cell then
has the text of the formula, and a reference to it gives the result from everywhere, also by the
name of the sheet. References to other cells, and to ranges that are read cell by cell and do not
cover the cell, are evaluated as before.
-/
theorem evaluate_stored_result {address text : String} {a : Address} {year : Int}
    (built : book.Built)
    (found : book.sheets[i]? = some sheet) (parsed : Address.parse address = .ok a)
    (formula : text.toList.head? = some '=')
    (evaluated
      : evaluateFormula { book := some book, sheet := i, here := a.position, year } text = .ok v)
    : ∃ sheet', sheet.setCalculated address text v.toContent = .ok sheet'
        ∧ let book' := book.setSheet i sheet'
          book'.sheets[i]? = some sheet'
          ∧ (sheet'.get a.position).source? = some text
          ∧ (∀ (reader : Context) (ref : Option SheetRef) (b : Address), b.position = a.position
            → reader.sheets book ref = .ok [i]
            → (reader.inBook book').evaluate (.cell ref b) = .ok v.kept)
          ∧ (∀ reader : Context,
            (reader.inBook book').evaluateFormula
                ("=" ++ SheetName.write (some sheet.name) ++ "!" ++ a.text)
              = .ok v.kept)
          ∧ ∀ (reader : Context) (e : Expr) (ref : Option SheetRef) (r : Range), e.RefersTo ref r
            → r.cellCount ≤ denseLimit
            → (∀ indices, reader.sheets book ref = .ok indices → i ∈ indices
              → ¬r.contains a.position)
            → (reader.inBook book').evaluate e = (reader.inBook book).evaluate e := by
  have inGrid : a.position.InGrid := Address.inGrid_of_parse parsed
  have source : Sheet.formulaSource text = text := by
    obtain ⟨rest, chars⟩ := List.head?_eq_some_iff.mp formula
    simp [Sheet.formulaSource, chars]
  obtain ⟨sheet', done, stores⟩ := sheet.exists_set inGrid (.calculated text v.toContent)
  have held : sheet'.get a.position = .calculated text v.toContent := by
    rw [stores.get, Function.update_self]
  have shown : Value.ofContent (sheet'.get a.position) = v.kept := by
    rw [held, Value.ofContent_calculated text (isScalar_of_evaluateFormula rfl evaluated)]
  have present := Workbook.getElem?_setSheet_self found stores.name
  refine ⟨sheet', ?_, present, ?_, ?_, ?_, ?_⟩
  · change sheet.setAddress address (.calculated (Sheet.formulaSource text) v.toContent) = _
    rw [Sheet.setAddress_eq, parsed, source]
    exact done
  · rw [held]
    rfl
  · intro reader ref b same named
    have sheets : (reader.inBook (book.setSheet i sheet')).sheets (book.setSheet i sheet') ref
        = .ok [i] :=
      (sheets_eq (book.sameFrame_setSheet i sheet')).symm.trans named
    have value := cellValue_of_sheets rfl sheets present (same ▸ inGrid)
    rw [evaluate, evaluateWithin, Expr.eval, value, same, shown]
    rfl
  · intro reader
    have inBook : (reader.inBook (book.setSheet i sheet')).book = some (book.setSheet i sheet') :=
      rfl
    have value :=
      evaluateFormula_sheet_cell (built.wellNamed.setSheet i sheet') inBook present inGrid
    rwa [stores.name, shown] at value
  · intro reader e ref r refers small apart
    exact evaluate_inBook_setSheet reader found stores refers small apart

/-- In a sheet that holds data, a text is stored with its formula and read back, and the row of the
data stays as it is.
-/
theorem evaluate_stored_result_text
    : let blank : Sheet := .blank "Sheet1"
      let sheet : Sheet := { blank with cells := blank.cells.insert ⟨0, 0⟩ (.text "total") }
      let book : Workbook := { Workbook.new with sheets := [sheet] }
      let above : Expr :=
        .range none (.spanning { row := 0, col := 0 } { row := 0, col := 2, colAbsolute := true })
      evaluateFormula { book := some book, sheet := 0, here := ⟨1, 1⟩ } "=A1&\"!\""
          = .ok (.text "total!")
        ∧ ∃ sheet', sheet.setCalculated " $b2" "=A1&\"!\"" (.text "total!") = .ok sheet'
          ∧ (sheet'.get ⟨1, 1⟩).source? = some "=A1&\"!\""
          ∧ ∀ reader : Context,
            (reader.inBook (book.setSheet 0 sheet')).evaluateFormula "=Sheet1!$B2"
                = .ok (.text "total!")
              ∧ (reader.inBook (book.setSheet 0 sheet')).evaluate above
                = (reader.inBook book).evaluate above := by
  intro blank sheet book above
  have evaluated
      : evaluateFormula { book := some book, sheet := 0, here := ⟨1, 1⟩ } "=A1&\"!\""
        = .ok (.text "total!") := by
    with_unfolding_all rfl
  have parsed : Address.parse " $b2" = .ok { row := 1, col := 1, colAbsolute := true } := by
    with_unfolding_all rfl
  have built : book.Built := by
    have updated : blank.Update sheet := .set ⟨0, 0⟩ (.text "total") rfl
    have replaced : Workbook.new.setSheet 0 sheet = book := rfl
    exact ⟨.new, by simp, .single (replaced ▸ .step (.updateSheet 0 rfl updated))⟩
  have found : book.sheets[0]? = some sheet := rfl
  obtain ⟨sheet', done, _, source, _, byName, others⟩ :=
    evaluate_stored_result built found parsed (by rfl) evaluated
  have written : "=" ++ SheetName.write (some sheet.name) ++ "!"
      ++ Address.text { row := 1, col := 1, colAbsolute := true } = "=Sheet1!$B2" := by
    decide +kernel
  refine ⟨evaluated, sheet', done, source, fun reader => ⟨written ▸ byName reader, ?_⟩⟩
  exact others reader above none _ (.inl rfl) (by decide) fun _ _ _ => by decide

end Context

end Spreadsheet
