import Spreadsheet.Proofs.Book.SheetName
import Spreadsheet.Proofs.Book.Workbook
import Spreadsheet.Proofs.Evaluation.CellReference
import Spreadsheet.Proofs.Evaluation.Sound
import Spreadsheet.Proofs.Formula.RoundTrip
import Spreadsheet.Proofs.Value.Resolve

/-! Every sheet of a workbook can be referred to by its name as formulas write it, and every two
sheets by their names as the ends of a span.
-/

namespace Spreadsheet

open Grammar Token

-- Names as formulas write them

theorem SheetRef.text_of_names (first : String) (last : Option String)
    : SheetRef.text { first, last } = SheetName.writeSpan none (some first) last :=
  rfl

/-- A reference can name sheets with valid names. -/
theorem SheetRef.proper_of_names {first : String} {last : Option String}
    (valid : SheetName.fault? first = none) (valid' : ∀ name ∈ last, SheetName.fault? name = none)
    : SheetRef.Proper { first, last } := by
  have valid : SheetName.Valid first := SheetName.fault?_eq_none.mp valid
  refine ⟨nofun, valid.nonempty, ?_, ?_, ?_⟩
  · intro empty
    have last : SheetName.Valid "" := SheetName.fault?_eq_none.mp (valid' _ empty)
    exact last.nonempty rfl
  · exact valid.allowed _ (by decide)
  · intro _ bracket
    exact valid.allowed '[' (by decide) (List.mem_of_mem_head? bracket)

namespace Expr

variable {r : SheetRef} {a b : Address}

/-- What follows the sheets of a reference is read as it is without them. -/
theorem parse_behindSheets {cs : List Char} {ts : List Token} {e : Expr} (proper : r.Proper)
    (own : r.book = none) (spells : Spells cs ts) (visible : EndsVisibly cs)
    (derived : Derives .formula (sheetTokens (some r) ++ ts) e)
    : parse (String.ofList ('=' :: (sheetChars (some r) ++ cs))) = .ok e := by
  have same : r.written = r := SheetRef.written_eq_self_iff.mpr (by simp [own])
  have spells' : Spells (sheetChars (some r) ++ cs) (sheetTokens (some r) ++ ts) := by
    have behind : Spells (sheetChars (some r) ++ cs) (sheetTokens (some r.written) ++ ts) :=
      spells.behindSheets fun _ mem => Option.some.inj mem ▸ proper
    rwa [same] at behind
  exact parse_of_spells spells' derived (endsVisibly_append (endsVisibly_sheetChars _) visible)

/-- Sheets of the workbook itself in front of an address are read as such. -/
theorem parse_sheet_cell (proper : r.Proper) (own : r.book = none) (inGrid : a.position.InGrid)
    : parse ("=" ++ r.text ++ "!" ++ a.text) = .ok (.cell (some r) a) := by
  have written : "=" ++ r.text ++ "!" ++ a.text
      = String.ofList ('=' :: (sheetChars (some r) ++ a.text.toList)) := by
    rw [← String.toList_inj]
    simp [sheetChars]
  have visible : EndsVisibly a.text.toList := by
    rw [Address.text, String.toList_ofList]
    exact endsVisibly_address a
  rw [written]
  refine parse_behindSheets proper own (spells_address inGrid) visible ?_
  exact (Binds.of_atom (.cell _ (Address.parse_text inGrid) inGrid)).formula (by decide)

/-- Sheets of the workbook itself in front of two corners are read as such. -/
theorem parse_sheet_corners (proper : r.Proper) (own : r.book = none)
    (left : a.position.InGrid) (right : b.position.InGrid)
    : parse ("=" ++ r.text ++ "!" ++ a.text ++ ":" ++ b.text)
      = .ok (.range (some r) (.spanning a b)) := by
  have written : "=" ++ r.text ++ "!" ++ a.text ++ ":" ++ b.text
      = String.ofList
          ('=' :: (sheetChars (some r) ++ (a.text.toList ++ ':' :: b.text.toList))) := by
    rw [← String.toList_inj]
    simp [sheetChars]
  have visible : EndsVisibly (a.text.toList ++ ':' :: b.text.toList) := by
    rw [List.append_cons, Address.text, Address.text, String.toList_ofList, String.toList_ofList]
    exact endsVisibly_append (endsVisibly_concat _ (by decide)) (endsVisibly_address b)
  rw [written]
  refine parse_behindSheets proper own (spells_corners left right) visible ?_
  have first : Derives .atom (sheetTokens (some r) ++ [Token.cell a.text]) (.cell (some r) a) :=
    .cell _ (Address.parse_text left) left
  have last : Derives .atom [.cell b.text] (.cell none b) :=
    .cell none (Address.parse_text right) right
  have corners := Derives.corners first last (.inl rfl)
  rw [List.append_assoc] at corners
  exact (Binds.of_range corners).formula (by decide)

end Expr

namespace Context

variable {ctx : Context} {book : Workbook} {sheet sheet' : Sheet} {i j : Nat} {r : Range}

-- The sheets from one to another

/-- The indices of all sheets from one to another, in the order of the workbook. -/
def sheetsBetween (i j : Nat) : List Nat :=
  List.range' (min i j) (max i j - min i j + 1)

theorem sheetsBetween_comm (i j : Nat) : sheetsBetween i j = sheetsBetween j i := by
  rw [sheetsBetween, sheetsBetween, Nat.min_comm, Nat.max_comm]

theorem sheetsBetween_self (i : Nat) : sheetsBetween i i = [i] := by
  simp [sheetsBetween]

theorem le_of_mem_sheetsBetween {k : Nat} (mem : k ∈ sheetsBetween i j) : k ≤ max i j := by
  have bounds := List.mem_range'_1.mp mem
  omega

/-- Two sheets named in a reference stand for all sheets from one to the other. -/
theorem sheets_of_names (wellNamed : book.WellNamed) (found : book.sheets[i]? = some sheet)
    (found' : book.sheets[j]? = some sheet')
    : ctx.sheets book (some { first := sheet.name, last := some sheet'.name })
      = .ok (sheetsBetween i j) := by
  rw [sheets]
  simp only [wellNamed.sheetIndex? found rfl, wellNamed.sheetIndex? found' rfl]
  rfl

theorem sheets_of_name (wellNamed : book.WellNamed) (found : book.sheets[i]? = some sheet)
    : ctx.sheets book (some { first := sheet.name }) = .ok [i] := by
  rw [sheets]
  simp only [wellNamed.sheetIndex? found rfl]
  exact congrArg Except.ok (sheetsBetween_self i)

-- What references to named sheets come to

/-- A cell of a sheet that a reference names alone is an area of its own. -/
theorem areas_of_sheets {ref : Option SheetRef} {a : Address} (inBook : ctx.book = some book)
    (named : ctx.sheets book ref = .ok [i]) (found : book.sheets[i]? = some sheet)
    (inGrid : a.position.InGrid)
    : ctx.areas ref (.single a) = pure [sheet.areaWith (.single a) (.single a)] := by
  have read : sheet.area (.single a) = pure (sheet.areaWith (.single a) (.single a)) :=
    Sheet.area_single inGrid.countable
  exact (areas_eq_pure inBook).mpr
    ⟨[i], named, .cons (Workbook.areaAt_eq_pure.mpr ⟨sheet, found, read⟩) .nil⟩

/-- A cell of a sheet that a reference names alone is what the sheet holds there. -/
theorem cellValue_of_sheets {ref : Option SheetRef} {a : Address} (inBook : ctx.book = some book)
    (named : ctx.sheets book ref = .ok [i]) (found : book.sheets[i]? = some sheet)
    (inGrid : a.position.InGrid)
    : ctx.cellValue ref a = .ok (.ofContent (sheet.get a.position)) :=
  cellValue_of_shows (areas_of_sheets inBook named found inGrid)
    (Sheet.shows_of_area (Sheet.area_single inGrid.countable))

/-- What a range on some sheets comes to: `#NUM!` if one of them has too much data in it, and else
what each of them holds, as one area or as a union of several ones.
-/
def ShownOn (book : Workbook) (r : Range) (indices : List Nat) (result : Evaluation Value) : Prop :=
  ((∃ k ∈ indices, OverflowsAt book r k) ∧ result = .ok (.error .num))
    ∨ (∀ k ∈ indices, ¬OverflowsAt book r k)
      ∧ ∃ areas, List.Forall₂ (ShowsAt book r) indices areas
        ∧ ((∃ area, areas = [area] ∧ result = .ok (.area area))
          ∨ areas.length ≠ 1 ∧ result = .ok (.union areas))

theorem evaluate_range (ctx : Context) (ref : Option SheetRef) (r : Range)
    : ctx.evaluate (.range ref r)
      = (ctx.rangeValue ref r).mapError fun e => .operation (.area e) := by
  rw [evaluate, evaluateWithin, Expr.eval]

/-- References that name the same sheets come to the same. -/
theorem evaluate_range_congr {ref ref' : Option SheetRef} (inBook : ctx.book = some book)
    (same : ctx.sheets book ref = ctx.sheets book ref')
    : ctx.evaluate (.range ref r) = ctx.evaluate (.range ref' r) := by
  rw [evaluate_range, evaluate_range, rangeValue, rangeValue, areas_of_book inBook, same,
    ← areas_of_book inBook]

/-- A range on the sheets that a reference names is what they hold. -/
theorem shownOn_of_sheets {ref : Option SheetRef} {indices : List Nat}
    (inBook : ctx.book = some book) (named : ctx.sheets book ref = .ok indices)
    (present : ∀ k ∈ indices, k < book.sheets.length) (inGrid : r.InGrid)
    : ShownOn book r indices (ctx.evaluate (.range ref r)) := by
  have read : ctx.areas ref r = indices.mapM (book.areaAt r) := by
    rw [areas_of_book inBook, named]
    rfl
  have reads : ∀ k sheet, book.sheets[k]? = some sheet → book.areaAt r k = sheet.area r := by
    intro k sheet found
    rw [Workbook.areaAt, found]
  rw [evaluate_range, rangeValue, read]
  rcases mapM_area_cases indices present inGrid _ reads with ⟨overflow, fails⟩
    | ⟨enough, areas, done, shown⟩
  · rw [fails]
    exact .inl ⟨overflow, rfl⟩
  · rw [done]
    refine .inr ⟨enough, areas, shown, ?_⟩
    rcases areas with _ | ⟨area, _ | ⟨next, more⟩⟩
    · exact .inr ⟨by simp, rfl⟩
    · exact .inl ⟨area, rfl, rfl⟩
    · exact .inr ⟨by simp, rfl⟩

/-- What a formula sees of a cell is seen from everywhere. -/
theorem shown_ofContent (ctx : Context) (content : Content)
    : ctx.shown (.ofContent content) = .ofContent content := by
  have scalar : (Value.ofContent content).isScalar := (Value.isPlain_ofContent content).isScalar
  rw [shown]
  split
  · rfl
  · generalize Value.ofContent content = value at scalar
    cases noError : value.isError with
    | true =>
      cases value with
      | error e => rw [Value.resolve, Value.ofExcept]
      | _ => cases noError
    | false => rw [Value.resolve_of_isScalar scalar noError, Value.ofExcept]

-- References in workbooks whose sheets are well named

/-- The name of a sheet in front of an address gives the cell there. -/
theorem evaluateFormula_sheet_cell {a : Address} (wellNamed : book.WellNamed)
    (inBook : ctx.book = some book) (found : book.sheets[i]? = some sheet)
    (inGrid : a.position.InGrid)
    : ctx.evaluateFormula ("=" ++ SheetName.write (some sheet.name) ++ "!" ++ a.text)
      = .ok (.ofContent (sheet.get a.position)) := by
  have proper : SheetRef.Proper { first := sheet.name } :=
    SheetRef.proper_of_names (wellNamed.valid sheet (List.mem_of_getElem? found)) nofun
  have parsed := Expr.parse_sheet_cell proper rfl inGrid
  have value := cellValue_of_sheets inBook (sheets_of_name wellNamed found) found inGrid
  have evaluated : ctx.evaluate (.cell (some { first := sheet.name }) a)
      = .ok (.ofContent (sheet.get a.position)) := by
    rw [evaluate, evaluateWithin, Expr.eval, value]
    rfl
  rw [SheetName.write, ← SheetRef.text_of_names, evaluateFormula_of_parse parsed, evaluated]
  exact congrArg Except.ok (shown_ofContent ctx _)

/-- The names of two sheets in front of two corners are a range on all sheets between them. -/
theorem parse_span {a b : Address} (wellNamed : book.WellNamed)
    (found : book.sheets[i]? = some sheet) (found' : book.sheets[j]? = some sheet')
    (left : a.position.InGrid) (right : b.position.InGrid)
    : Expr.parse ("=" ++ SheetName.writeSpan none (some sheet.name) (some sheet'.name)
        ++ "!" ++ a.text ++ ":" ++ b.text)
      = .ok (.range (some { first := sheet.name, last := some sheet'.name }) (.spanning a b)) := by
  have valid := wellNamed.valid sheet (List.mem_of_getElem? found)
  have valid' := wellNamed.valid sheet' (List.mem_of_getElem? found')
  have proper : SheetRef.Proper { first := sheet.name, last := some sheet'.name } :=
    SheetRef.proper_of_names valid (by simpa using valid')
  rw [← SheetRef.text_of_names]
  exact Expr.parse_sheet_corners proper rfl left right

/-- In a workbook that was built up step by step, every sheet is found by its name as formulas write
it: in front of an address it gives the cell there. The names of two sheets in front of two corners
give the range between these on every sheet from one to the other, whichever comes first.
-/
theorem evaluate_by_sheet_names (reachable : book.Reachable) (inBook : ctx.book = some book)
    : (∀ (i : Nat) (sheet : Sheet) (a : Address), book.sheets[i]? = some sheet
        → a.position.InGrid
        → ctx.evaluateFormula ("=" ++ SheetName.write (some sheet.name) ++ "!" ++ a.text)
          = .ok (.ofContent (sheet.get a.position)))
      ∧ ∀ (i j : Nat) (sheet sheet' : Sheet) (a b : Address), book.sheets[i]? = some sheet
        → book.sheets[j]? = some sheet' → a.position.InGrid → b.position.InGrid
        → ∃ e e', Expr.parse ("=" ++ SheetName.writeSpan none (some sheet.name) (some sheet'.name)
              ++ "!" ++ a.text ++ ":" ++ b.text) = .ok e
          ∧ Expr.parse ("=" ++ SheetName.writeSpan none (some sheet'.name) (some sheet.name)
              ++ "!" ++ a.text ++ ":" ++ b.text) = .ok e'
          ∧ ShownOn book (.spanning a b) (sheetsBetween i j) (ctx.evaluate e)
          ∧ ctx.evaluate e' = ctx.evaluate e := by
  have wellNamed := reachable.wellNamed
  constructor
  · intro i sheet a found inGrid
    exact evaluateFormula_sheet_cell wellNamed inBook found inGrid
  · intro i j sheet sheet' a b found found' left right
    have named : ctx.sheets book (some { first := sheet.name, last := some sheet'.name })
        = .ok (sheetsBetween i j) :=
      sheets_of_names wellNamed found found'
    have named' : ctx.sheets book (some { first := sheet'.name, last := some sheet.name })
        = .ok (sheetsBetween i j) := by
      rw [sheetsBetween_comm]
      exact sheets_of_names wellNamed found' found
    have present : ∀ k ∈ sheetsBetween i j, k < book.sheets.length := by
      intro k mem
      have inside := (List.getElem?_eq_some_iff.mp found).1
      have inside' := (List.getElem?_eq_some_iff.mp found').1
      exact Nat.lt_of_le_of_lt (le_of_mem_sheetsBetween mem) (Nat.max_lt.mpr ⟨inside, inside'⟩)
    refine ⟨_, _, parse_span wellNamed found found' left right,
      parse_span wellNamed found' found left right, ?_, ?_⟩
    · exact shownOn_of_sheets inBook named present (Expr.inGrid_spanning left right).2
    · exact evaluate_range_congr inBook (named'.trans named.symm)

/-- A sheet whose name has a blank and an apostrophe, and a span from it to the one in front. -/
theorem evaluate_by_sheet_names_quoted
    : let blank : Sheet := .blank "it's 2"
      let sheet : Sheet := { blank with cells := blank.cells.insert ⟨0, 0⟩ (.number 7) }
      let book : Workbook := { Workbook.new with sheets := [.blank "Sheet1", sheet] }
      let ctx : Context := { book := some book }
      book.Reachable
        ∧ ctx.evaluateFormula "='it''s 2'!A1" = .ok (.number 7)
        ∧ ∃ e, Expr.parse "='it''s 2:Sheet1'!B2:A1" = .ok e
          ∧ ∃ areas, ctx.evaluate e = .ok (.union areas)
            ∧ List.Forall₂ (ShowsAt book (.ofPositions ⟨0, 0⟩ ⟨1, 1⟩)) [0, 1] areas := by
  intro blank sheet book ctx
  have reachable : book.Reachable := by
    have added : Workbook.new.addSheet "it's 2"
        = .ok { Workbook.new with sheets := [.blank "Sheet1", blank] } := by
      with_unfolding_all rfl
    have updated : blank.Update sheet := .set ⟨0, 0⟩ (.number 7) rfl
    refine ⟨.new, by simp, .tail (.single (.addSheet "it's 2" added)) ?_⟩
    have replaced : Workbook.setSheet
        { Workbook.new with sheets := [.blank "Sheet1", blank] } 1 sheet = book := rfl
    exact replaced ▸ .updateSheet 1 rfl updated
  have held : sheet.get ⟨0, 0⟩ = .number 7 := by
    rw [Sheet.get, Cells.get?_insert, if_pos rfl]
    rfl
  have shown : Value.ofContent (.number 7) = .number 7 := by
    with_unfolding_all rfl
  have small : ∀ k ∈ [0, 1], ¬OverflowsAt book (.ofPositions ⟨0, 0⟩ ⟨1, 1⟩) k := by
    intro k _ overflows
    obtain ⟨_, _, large, _⟩ := overflows
    exact absurd large (by decide)
  have inBook : ctx.book = some book := rfl
  obtain ⟨cells, spans⟩ := evaluate_by_sheet_names reachable inBook
  refine ⟨reachable, ?_, ?_⟩
  · have value := cells 1 sheet { row := 0, col := 0 } rfl ⟨by decide, by decide⟩
    have text : "=" ++ SheetName.write (some sheet.name) ++ "!"
        ++ Address.text { row := 0, col := 0 } = "='it''s 2'!A1" := by
      decide +kernel
    rw [text] at value
    exact value.trans (congrArg Except.ok (held ▸ shown))
  · obtain ⟨e, _, parsed, _, result, _⟩ := spans 1 0 sheet (.blank "Sheet1") { row := 1, col := 1 }
      { row := 0, col := 0 } rfl rfl ⟨by decide, by decide⟩ ⟨by decide, by decide⟩
    have text : "=" ++ SheetName.writeSpan none (some sheet.name) (some "Sheet1") ++ "!"
        ++ Address.text { row := 1, col := 1 } ++ ":" ++ Address.text { row := 0, col := 0 }
        = "='it''s 2:Sheet1'!B2:A1" := by
      decide +kernel
    refine ⟨e, text ▸ parsed, ?_⟩
    rcases result with ⟨⟨k, mem, overflows⟩, _⟩ | ⟨_, areas, each, ⟨area, rfl, _⟩ | ⟨_, done⟩⟩
    · exact absurd overflows (small k mem)
    · cases each.length_eq
    · exact ⟨areas, done, each⟩

end Context

end Spreadsheet
