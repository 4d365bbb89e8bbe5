import Spreadsheet.Proofs.Evaluation.Substitution
import Spreadsheet.Proofs.Formula.DefinedName

/-! A formula that is just a defined name has the value of the text that the name stands for, if the
name can be mentioned in a formula at all.
-/

namespace Spreadsheet.Context

variable {ctx : Context} {book book' : Workbook} {n text : String} {scope : Scope} {d : DefinedName}

/-- A name that was defined for the whole workbook or for the sheet of a formula is known to the
formula. It stands for its text, unless the sheet has a name of its own in front of that of the
workbook.
-/
theorem exists_definition?_of_defineName (done : book.defineName n text scope = .ok book')
    (inBook : ctx.book = some book') (visible : scope = .workbook ∨ scope = .sheet ctx.sheet)
    : ∃ d, ctx.definition? n = some d
      ∧ (d = .ofText n text scope
        ∨ scope = .workbook ∧ book.names.find? n (.sheet ctx.sheet) = some d) := by
  obtain ⟨names, defined, rfl⟩ := Workbook.exists_define_of_defineName done
  have known : ctx.definition? n = names.get? n ctx.sheet := by
    rw [definition?, inBook]
    rfl
  rw [known]
  let d : DefinedName := .ofText n text scope
  rcases visible with shared | own
  · cases hidden : book.names.find? n (.sheet ctx.sheet) with
    | none => exact ⟨d, NameTable.get?_of_define (d := d) defined shared hidden, .inl rfl⟩
    | some own =>
      exact ⟨own, NameTable.get?_of_define_hidden (d := d) defined shared hidden,
        .inr ⟨shared, rfl⟩⟩
  · exact ⟨d, NameTable.get?_of_define_own (d := d) defined own, .inl rfl⟩

/-- The value of the text of a formula to which some names have led already. -/
def evaluateFormulaAt (ctx : Context) (depth : Nat) (text : String) : Evaluation Value := do
  let e ← (Expr.parse text).mapError .parse
  return ctx.shown (← ctx.evaluateAt depth e)

theorem evaluateFormulaAt_of_parse {depth : Nat} {e : Expr} (parsed : Expr.parse text = .ok e)
    : ctx.evaluateFormulaAt depth text
      = ctx.evaluateAt depth e >>= fun value => .ok (ctx.shown value) := by
  rw [evaluateFormulaAt, parsed]
  rfl

/-- A formula that is just a name has the value of the text that the name stands for, one name
deeper.
-/
theorem evaluateFormula_name (found : ctx.definition? n = some d)
    (parsed : Expr.parse ("=" ++ n) = .ok (.name n))
    : ctx.evaluateFormula ("=" ++ n) = ctx.evaluateFormulaAt 1 d.formula := by
  have shallow : 0 < maxNameDepth := by decide
  have value : ctx.evaluate (.name n)
      = (Expr.parse d.formula).mapError .parse >>= ctx.evaluateAt 1 :=
    evaluateAt_of_shallow shallow found
  rw [evaluateFormula_of_parse parsed, value, evaluateFormulaAt, bind_assoc]
  rfl

/-- Where some names have led to it, a text has the value that it has on its own, unless it is cut
off.
-/
theorem extends_evaluateFormulaAt (depth : Nat) (text : String)
    : (ctx.evaluateFormulaAt depth text).Extends (ctx.evaluateFormula text) := by
  refine (Evaluation.extends_refl _).bind fun e => ?_
  have inner : (ctx.evaluateAt depth e).Extends (ctx.evaluate e) :=
    extends_evaluateWithin (Nat.sub_le _ _) e
  exact inner.bind fun value => Evaluation.extends_refl _

/-- Of the names that can be defined, for the whole workbook or for the sheet of a formula, those
that start with an ASCII character and do not look like a cell can be mentioned in the formula, and
no others. Such a name has the value of the text that it stands for, one name deeper: that of the
text on its own, unless the text itself leads through too many names.
-/
theorem evaluateFormula_defined_name (done : book.defineName n text scope = .ok book')
    (inBook : ctx.book = some book') (visible : scope = .workbook ∨ scope = .sheet ctx.sheet)
    : (Expr.parse ("=" ++ n) = .ok (.name n) ↔ DefinedName.Mentionable n)
      ∧ ∃ d, ctx.definition? n = some d
        ∧ (d = .ofText n text scope
          ∨ scope = .workbook ∧ book.names.find? n (.sheet ctx.sheet) = some d)
        ∧ (DefinedName.Mentionable n
          → ctx.evaluateFormula ("=" ++ n) = ctx.evaluateFormulaAt 1 d.formula
            ∧ (ctx.evaluateFormula ("=" ++ n)).Extends (ctx.evaluateFormula d.formula)) := by
  obtain ⟨_, defined, _⟩ := Workbook.exists_define_of_defineName done
  have valid : DefinedName.isValid n := (NameTable.define_eq_ok.mp defined).1
  have mentioned := DefinedName.parse_eq_name_iff valid
  obtain ⟨d, found, known⟩ := exists_definition?_of_defineName done inBook visible
  refine ⟨mentioned, d, found, known, fun mentionable => ?_⟩
  have deeper : ctx.evaluateFormula ("=" ++ n) = ctx.evaluateFormulaAt 1 d.formula :=
    evaluateFormula_name found (mentioned.mpr mentionable)
  exact ⟨deeper, deeper ▸ extends_evaluateFormulaAt 1 d.formula⟩

/-- A name that can be mentioned has the value of a text. -/
theorem evaluateFormula_defined_name_text
    : ∃ book, Workbook.new.defineName "Greeting" "\"hello\"" .workbook = .ok book
      ∧ let ctx : Context := { book := some book }
        Expr.parse "=Greeting" = .ok (.name "Greeting")
          ∧ ctx.evaluateFormula "=Greeting" = .ok (.text "hello")
          ∧ ctx.evaluateFormula "=\"hello\"" = ctx.evaluateFormula "=Greeting" := by
  obtain ⟨names, done⟩ : ∃ names, Workbook.new.defineName "Greeting" "\"hello\"" .workbook
      = .ok { Workbook.new with names } :=
    Workbook.exists_defineName rfl (by decide +kernel) _
  refine ⟨_, done, ?_⟩
  intro ctx
  have noShape : ¬Token.hasCellShape "Greeting".toList := by decide
  have mentionable : DefinedName.Mentionable "Greeting" :=
    ⟨⟨'G', rfl, by decide⟩, (DefinedName.hasCellShape_iff (by decide)).not.mp noShape⟩
  have inBook : ctx.book = some { Workbook.new with names } := rfl
  obtain ⟨mentioned, d, _, known, evaluated⟩ :=
    evaluateFormula_defined_name done inBook (.inl rfl)
  obtain rfl : d = .ofText "Greeting" "\"hello\"" .workbook := by
    rcases known with same | ⟨_, found⟩
    · exact same
    · cases (Std.HashMap.getElem?_empty (a := NameTable.key _ _)).symm.trans found
  obtain ⟨deeper, follows⟩ := evaluated mentionable
  have literal : ctx.evaluateFormulaAt 1 "=\"hello\"" = .ok (.text "hello") := by
    have read : Expr.parse "=\"hello\"" = .ok (.text "hello") := by
      with_unfolding_all rfl
    have value : ctx.evaluateAt 1 (.text "hello") = .ok (.text "hello") :=
      evaluateAt_of_literal rfl
    rw [evaluateFormulaAt_of_parse read, value]
    exact congrArg Except.ok (shown_ofContent ctx (.text "hello"))
  have value : ctx.evaluateFormula "=Greeting" = .ok (.text "hello") := deeper.trans literal
  have whole : ctx.evaluateFormula "=Greeting" ≠ .error .circularReference := by
    rw [value]
    nofun
  exact ⟨mentioned.mpr mentionable, value, follows.resolve_left whole⟩

/-- Names that can be defined and not be mentioned: one is read as a cell, and no token starts like
the other.
-/
theorem evaluateFormula_cell_or_accent
    : let ctx (book : Workbook) : Context := { book := some book }
      ∃ book book', Workbook.new.defineName "A1" "42" .workbook = .ok book
        ∧ Workbook.new.defineName "é" "42" .workbook = .ok book'
        ∧ (ctx book).evaluateFormula "=42" = .ok (.number 42)
        ∧ (ctx book).evaluateFormula "=A1" = .ok .blank
        ∧ (ctx book').evaluateFormula "=42" = .ok (.number 42)
        ∧ (ctx book').evaluateFormula "=é" = .error (.parse (.unreadable "é")) := by
  intro ctx
  have number (book : Workbook) : (ctx book).evaluateFormula "=42" = .ok (.number 42) := by
    have parsed : Expr.parse "=42" = .ok (.number 42) := by
      with_unfolding_all rfl
    have literal : (ctx book).evaluateAt 0 (.number 42) = .ok (.number 42) :=
      evaluateAt_of_literal rfl
    have value : (ctx book).evaluate (.number 42) = .ok (.number 42) := literal
    rw [evaluateFormula_of_parse parsed, value]
    exact congrArg Except.ok (shown_ofContent (ctx book) (.number 42))
  have cell (names : NameTable)
      : (ctx { Workbook.new with names }).evaluateFormula "=A1" = .ok .blank := by
    have parsed : Expr.parse "=A1" = .ok (.cell none { row := 0, col := 0 }) := by
      with_unfolding_all rfl
    let book : Workbook := { Workbook.new with names }
    have found : book.sheets[0]? = some (.blank "Sheet1") := rfl
    have read : (ctx book).cellValue none { row := 0, col := 0 }
        = .ok (.ofContent ((Sheet.blank "Sheet1").get ⟨0, 0⟩)) :=
      cellValue_of_sheets rfl rfl found ⟨by decide, by decide⟩
    have value : (ctx book).evaluate (.cell none { row := 0, col := 0 })
        = .ok (.ofContent .empty) := by
      rw [evaluate, evaluateWithin, Expr.eval, read, Sheet.get_blank]
      rfl
    rw [evaluateFormula_of_parse parsed, value]
    exact congrArg Except.ok (shown_ofContent (ctx book) .empty)
  have accent (book : Workbook)
      : (ctx book).evaluateFormula "=é" = .error (.parse (.unreadable "é")) := by
    have unreadable : Expr.parse "=é" = .error (.unreadable "é") := by
      with_unfolding_all rfl
    rw [evaluateFormula, unreadable]
    rfl
  obtain ⟨names, done⟩ : ∃ names, Workbook.new.defineName "A1" "42" .workbook
      = .ok { Workbook.new with names } :=
    Workbook.exists_defineName rfl (by decide +kernel) _
  obtain ⟨names', done'⟩ : ∃ names, Workbook.new.defineName "é" "42" .workbook
      = .ok { Workbook.new with names } :=
    Workbook.exists_defineName rfl (by decide +kernel) _
  exact ⟨_, _, done, done', number _, cell names, number _, accent _⟩

end Spreadsheet.Context
