import Spreadsheet.Proofs.Formula.WellFormed
import Spreadsheet.Proofs.Grid.Address

/-! What can be relied on wherever one looks in a formula that was parsed. The scanner answers for
the contents of single tokens, the grammar for how they are put together.
-/

namespace Spreadsheet

namespace Expr

/-- A formula mentions sheets in front of a cell or of a range. -/
def Mentions (e : Expr) (r : SheetRef) : Prop :=
  (∃ a, e.Contains (cell (some r) a)) ∨ ∃ range, e.Contains (.range (some r) range)

/-- What holds everywhere in a formula that was parsed: only arguments are left out, and never the
only one; arrays are rectangular, cells and corners lie in the grid, and literals, sheets and names
cannot be taken for something else.
-/
structure Regular (e : Expr) : Prop where
  given : e ≠ missing
  leftOut : ∀ part, e.Contains part → missing ∈ part.children →
    ∃ f arguments, part = call f arguments ∧ arguments ≠ [missing]
  array : ∀ rows, e.Contains (array rows) →
    rows ≠ [] ∧ ∃ width > 0, ∀ row ∈ rows, row.length = width
  cell : ∀ sheet a, e.Contains (cell sheet a) → a.position.InGrid
  range : ∀ sheet r, e.Contains (range sheet r) →
    (r.first.position.InGrid ∧ r.last.position.InGrid)
      ∧ r.first.row ≤ r.last.row ∧ r.first.col ≤ r.last.col
  number : ∀ x, e.Contains (number x) → Number.IsLiteral x
  sheet : ∀ r, e.Mentions r → r.first ≠ "" ∧ ':' ∉ r.first.toList ∧ r.last ≠ some ""
  name : ∀ n, e.Contains (name n) →
    (∃ c rest, n.toList = c :: rest ∧ (c.isAlpha ∨ c = '_' ∨ c = '\\' ∨ c = '$'))
      ∧ Text.boolean? n = none ∧ ¬Address.HasShape n.toList

/-- Only right below a call something is left out, by cases on what it is left out of. -/
theorem call_of_missing_mem {part : Expr} (proper : part.Proper) (mem : missing ∈ part.children)
    : ∃ f arguments, part = call f arguments ∧ arguments ≠ [missing] := by
  cases part with
  | call f arguments => exact ⟨f, arguments, rfl, proper.2⟩
  | binary op left right =>
    simp only [children, List.mem_cons, List.not_mem_nil, or_false] at mem
    rcases mem with same | same
    · exact absurd same.symm proper.1
    · exact absurd same.symm proper.2
  | union left right =>
    simp only [children, List.mem_cons, List.not_mem_nil, or_false] at mem
    rcases mem with same | same
    · exact absurd same.symm proper.1
    · exact absurd same.symm proper.2
  | unary op operand => exact absurd (List.mem_singleton.mp mem).symm proper
  | array rows =>
    obtain ⟨row, inRows, inRow⟩ := List.mem_flatten.mp mem
    exact absurd inRow (proper.2.2 row inRows)
  | _ => cases mem

theorem name_of_isName {n : String} (h : Token.IsName n)
    : (∃ c rest, n.toList = c :: rest ∧ (c.isAlpha ∨ c = '_' ∨ c = '\\' ∨ c = '$'))
      ∧ Text.boolean? n = none ∧ ¬Address.HasShape n.toList := by
  obtain ⟨c, head, start⟩ := h.start
  obtain ⟨rest, chars⟩ := List.head?_eq_some_iff.mp head
  simp only [Token.isIdentifierStart, Bool.or_eq_true, decide_eq_true_eq, or_assoc] at start
  refine ⟨⟨c, rest, chars, start⟩, h.noBoolean, fun shape => ?_⟩
  cases h.noCell.symm.trans (Address.hasCellShape_of_hasShape shape)

/-- Whatever text was parsed, the formula is regular. -/
theorem regular_of_parse {text : String} {e : Expr} (h : parse text = .ok e) : e.Regular := by
  obtain ⟨wellFormed, given⟩ := wellFormed_of_parse h
  have sheets {r : SheetRef} (mentioned : e.Mentions r) : r.Proper := by
    rcases mentioned with ⟨a, within⟩ | ⟨range, within⟩
    · exact (wellFormed _ within).1 r rfl
    · exact (wellFormed _ within).1 r rfl
  exact {
    given
    leftOut part within mem := call_of_missing_mem (wellFormed part within) mem
    array rows within := ⟨(wellFormed _ within).1, (wellFormed _ within).2.1⟩
    cell sheet a within := (wellFormed _ within).2
    range sheet r within := ⟨(wellFormed _ within).2, r.rows_le, r.cols_le⟩
    number x within := wellFormed _ within
    sheet r mentioned :=
      ⟨(sheets mentioned).first, (sheets mentioned).noColon, (sheets mentioned).last⟩
    name n within := name_of_isName (wellFormed _ within) }

/-- A formula with something of everything in it. -/
theorem regular_of_parse_mixed
    : let e : Expr := .binary .concat
        (.call "SUM" [.range (some { first := "a b", last := some "c" })
          (.spanning { row := 1, col := 1 } { row := 0, col := 0 }), .missing, .number 1.5])
        (.binary (.arithmetic .add) (.array [[.number 1, .number 2], [.boolean true, .number 4]])
          (.name "rate"))
      parse "=sum('a b:c'!B2:A1,,1.5)&{1,2;TRUE,4}+rate" = .ok e ∧ e.Regular := by
  intro e
  have parsed : parse "=sum('a b:c'!B2:A1,,1.5)&{1,2;TRUE,4}+rate" = .ok e := by
    with_unfolding_all rfl
  exact ⟨parsed, regular_of_parse parsed⟩

end Expr

end Spreadsheet
