import Spreadsheet.Proofs.Formula.Completeness
import Spreadsheet.Proofs.Formula.ScannedTokens
import Spreadsheet.Proofs.Formula.Subformula

/-! What every formula that was parsed has in common. The scanner settles which words can be names
and which sheets can be meant; the grammar settles where arguments may be left out and what
shape arrays have.
-/

namespace Spreadsheet

namespace Expr

/-- What a formula is made sure of apart from the formulas below it. -/
def Proper : Expr → Prop
  | number value => Number.IsLiteral value
  | cell sheet a => (∀ r ∈ sheet, r.Proper) ∧ a.position.InGrid
  | range sheet r => (∀ s ∈ sheet, s.Proper) ∧ r.first.position.InGrid ∧ r.last.position.InGrid
  | name n => Token.IsName n
  | binary _ left right => left ≠ missing ∧ right ≠ missing
  | union left right => left ≠ missing ∧ right ≠ missing
  | unary _ operand => operand ≠ missing
  | call f arguments => (∃ word, Token.IsWord word ∧ f = Text.upper word) ∧ arguments ≠ [missing]
  | array rows =>
    rows ≠ [] ∧ (∃ width > 0, ∀ row ∈ rows, row.length = width) ∧ ∀ row ∈ rows, missing ∉ row
  | _ => True

/-- A formula as the parser makes them. -/
def WellFormed (e : Expr) : Prop :=
  ∀ part, e.Contains part → part.Proper

theorem wellFormed_iff {e : Expr}
    : e.WellFormed ↔ e.Proper ∧ ∀ child ∈ e.children, child.WellFormed :=
  forall_contains_iff

end Expr

open Grammar Token

-- Where the parts of a derivation stand among all tokens

/-- Some tokens stand among others, and no parenthesis opens right behind them. -/
def StandsIn (inner whole : List Token) : Prop :=
  ∃ before after, whole = before ++ (inner ++ after) ∧ after.head? ≠ some .leftParen

namespace StandsIn

variable {inner whole : List Token}

theorem of_append {after : List Token} (h : after.head? ≠ some .leftParen)
    : StandsIn inner (inner ++ after) :=
  ⟨[], after, rfl, h⟩

theorem behind (before : List Token) (h : StandsIn inner whole)
    : StandsIn inner (before ++ whole) := by
  obtain ⟨more, after, rfl, last⟩ := h
  exact ⟨before ++ more, after, by simp, last⟩

end StandsIn

theorem token_ne_leftParen (op : BinaryOperator) : op.token ≠ .leftParen := by
  intro same
  have := Token.grip_operator op
  rw [same] at this
  rcases op with op | op | _
  · cases op <;> cases this
  · cases this
  · cases this

theorem head?_linkTokens {links : List (BinaryOperator × Phrase)} {after : List Token}
    (h : after.head? ≠ some .leftParen)
    : (linkTokens links ++ after).head? ≠ some .leftParen := by
  cases links with
  | nil => exact h
  | cons link links =>
    intro same
    exact token_ne_leftParen link.1 (Option.some.inj same)

theorem standsIn_linkTokens {links : List (BinaryOperator × Phrase)} {after : List Token}
    (h : after.head? ≠ some .leftParen)
    : ∀ link ∈ links, StandsIn link.2.tokens (linkTokens links ++ after) := by
  induction links with
  | nil => simp
  | cons link links ih =>
    rw [linkTokens_cons, List.cons_append, List.append_assoc]
    intro link' mem
    rcases List.mem_cons.mp mem with rfl | mem
    · exact (StandsIn.of_append (head?_linkTokens h)).behind [_]
    · exact ((ih link' mem).behind link.2.tokens).behind [_]

theorem standsIn_memberTokens {members : List Phrase} {after : List Token}
    (h : after.head? ≠ some .leftParen)
    : ∀ member ∈ members, StandsIn member.tokens (memberTokens members ++ after) := by
  induction members with
  | nil => simp
  | cons p members ih =>
    rw [memberTokens_cons, List.cons_append, List.append_assoc]
    intro member mem
    rcases List.mem_cons.mp mem with rfl | mem
    · refine (StandsIn.of_append ?_).behind [_]
      cases members with
      | nil => exact h
      | cons next members => exact fun same => nomatch same
    · exact ((ih member mem).behind p.tokens).behind [_]

theorem standsIn_commaTokens {phrases : List Phrase} {after : List Token}
    (h : after.head? ≠ some .leftParen)
    : ∀ phrase ∈ phrases, StandsIn phrase.tokens (commaTokens phrases ++ after) := by
  induction phrases with
  | nil => simp
  | cons p phrases ih =>
    intro phrase mem
    by_cases last : phrases = []
    · subst last
      obtain rfl := List.mem_singleton.mp mem
      rw [commaTokens_singleton]
      exact .of_append h
    · rw [commaTokens_cons p last, List.append_assoc, List.cons_append]
      rcases List.mem_cons.mp mem with rfl | mem
      · exact .of_append fun same => nomatch same
      · exact ((ih phrase mem).behind [.comma]).behind p.tokens

theorem standsIn_rowTokens {rows : List (List Phrase)} {after : List Token}
    (h : after.head? ≠ some .leftParen)
    : ∀ row ∈ rows, ∀ element ∈ row, StandsIn element.tokens (rowTokens rows ++ after) := by
  induction rows with
  | nil => simp
  | cons row rows ih =>
    intro row' mem element inRow
    by_cases last : rows = []
    · subst last
      obtain rfl := List.mem_singleton.mp mem
      rw [rowTokens_singleton]
      exact standsIn_commaTokens h element inRow
    · rw [rowTokens_cons row last, List.append_assoc, List.cons_append]
      rcases List.mem_cons.mp mem with rfl | mem
      · exact standsIn_commaTokens (by simp) element inRow
      · exact ((ih row' mem element inRow).behind [.semicolon]).behind (commaTokens row)

theorem Token.AllProper.of_append {before after : List Token} (h : AllProper (before ++ after))
    : AllProper after := by
  induction before with
  | nil => exact h
  | cons token before ih => exact ih h.2

-- Only arguments are left out

theorem linkFrom_ne_missing {first : Expr} {links : List (BinaryOperator × Phrase)}
    (h : first ≠ .missing)
    : linkFrom first links ≠ .missing := by
  induction links generalizing first with
  | nil => exact h
  | cons link links ih => exact ih (fun same => nomatch same)

theorem uniteFrom_ne_missing {first : Expr} {members : List Phrase} (h : first ≠ .missing)
    : uniteFrom first members ≠ .missing := by
  induction members generalizing first with
  | nil => exact h
  | cons member members ih => exact ih (fun same => nomatch same)

theorem iterate_percent_ne_missing {e : Expr} {count : Nat} (h : e ≠ .missing)
    : (Expr.unary .percent)^[count] e ≠ .missing := by
  induction count generalizing e with
  | zero => exact h
  | succ count ih => exact ih (fun same => nomatch same)

/-- Only an argument can be left out, by induction on the derivation. -/
theorem ne_missing_of_derives {symbol : Symbol} {ts : List Token} {e : Expr}
    (h : Derives symbol ts e) (present : symbol ≠ .argument)
    : e ≠ .missing := by
  induction h with
  | chain links below head levels operands ih => exact linkFrom_ne_missing (ih (by simp))
  | operand operand ih => exact ih (by simp)
  | percents count operand ih => exact iterate_percent_ne_missing (ih (by simp))
  | single atom ih => exact ih (by simp)
  | @literal token value same =>
    intro missing
    subst missing
    cases token <;> cases same
  | parentheses members head each ih => exact uniteFrom_ne_missing (ih (by simp))
  | given formula => exact absurd rfl present
  | leftOut => exact absurd rfl present
  | _ => simp

namespace Expr

-- Every rule of the grammar makes well-formed formulas

theorem wellFormed_of_children_nil {e : Expr} (proper : e.Proper) (h : e.children = [])
    : e.WellFormed :=
  forall_contains_of_leaf h proper

theorem wellFormed_linkFrom {first : Expr} {links : List (BinaryOperator × Phrase)}
    (present : first ≠ .missing) (wellFormed : first.WellFormed)
    (operands : ∀ link ∈ links, link.2.value ≠ .missing ∧ link.2.value.WellFormed)
    : (linkFrom first links).WellFormed := by
  induction links generalizing first with
  | nil => exact wellFormed
  | cons link links ih =>
    simp only [List.mem_cons, forall_eq_or_imp] at operands
    refine ih (fun same => nomatch same) (wellFormed_iff.mpr ⟨⟨present, operands.1.1⟩, ?_⟩)
      operands.2
    simpa [children] using ⟨wellFormed, operands.1.2⟩

theorem wellFormed_uniteFrom {first : Expr} {members : List Phrase}
    (present : first ≠ .missing) (wellFormed : first.WellFormed)
    (each : ∀ member ∈ members, member.value ≠ .missing ∧ member.value.WellFormed)
    : (uniteFrom first members).WellFormed := by
  induction members generalizing first with
  | nil => exact wellFormed
  | cons member members ih =>
    simp only [List.mem_cons, forall_eq_or_imp] at each
    refine ih (fun same => nomatch same) (wellFormed_iff.mpr ⟨⟨present, each.1.1⟩, ?_⟩) each.2
    simpa [children] using ⟨wellFormed, each.1.2⟩

theorem wellFormed_unary {op : UnaryOperator} {e : Expr} (present : e ≠ .missing)
    (wellFormed : e.WellFormed)
    : (unary op e).WellFormed :=
  wellFormed_iff.mpr ⟨present, by simpa [children] using wellFormed⟩

theorem wellFormed_percents {e : Expr} {count : Nat} (present : e ≠ .missing)
    (wellFormed : e.WellFormed)
    : ((unary .percent)^[count] e).WellFormed := by
  induction count generalizing e with
  | zero => exact wellFormed
  | succ count ih => exact ih (fun same => nomatch same) (wellFormed_unary present wellFormed)

theorem proper_of_literal? {token : Token} {next : Option Token} {value : Expr}
    (h : token.literal? = some value) (proper : token.Proper next)
    : value.WellFormed := by
  cases token <;> cases h
  all_goals exact wellFormed_of_children_nil proper rfl

theorem proper_of_sheetTokens {sheet : Option SheetRef} {ts : List Token}
    (h : AllProper (sheetTokens sheet ++ ts))
    : ∀ r ∈ sheet, r.Proper := by
  cases sheet with
  | none => simp
  | some r =>
    intro r' same
    cases same
    exact h.1

theorem inGrid_spanning {a b : Address} (left : a.position.InGrid) (right : b.position.InGrid)
    : (Range.spanning a b).first.position.InGrid ∧ (Range.spanning a b).last.position.InGrid := by
  simp only [Position.InGrid, Address.position, Range.spanning] at left right ⊢
  omega

/-- Arguments that are written are not one that was left out. -/
theorem values_ne_missing {arguments : List Phrase} (written : commaTokens arguments ≠ [])
    (each : ∀ argument ∈ arguments, Derives .argument argument.tokens argument.value)
    : arguments.map Phrase.value ≠ [missing] := by
  intro single
  obtain ⟨⟨ts, value⟩, rfl, rfl⟩ := List.map_eq_singleton_iff.mp single
  rw [commaTokens_singleton] at written
  cases each _ List.mem_cons_self with
  | given formula => exact ne_missing_of_derives formula (by simp) rfl
  | leftOut => exact written rfl

/-- What the grammar derives from proper tokens is well formed, by induction on the derivation. -/
theorem wellFormed_of_derives {symbol : Symbol} {ts whole : List Token} {e : Expr}
    (h : Derives symbol ts e) (proper : AllProper whole) (inside : StandsIn ts whole)
    : e.WellFormed := by
  induction h with
  | @chain level ts first links below head levels operands ihHead ihOperands =>
    obtain ⟨before, after, rfl, closed⟩ := inside
    refine wellFormed_linkFrom (ne_missing_of_derives head (by simp)) (ihHead ?_) ?_
    · refine ⟨before, linkTokens links ++ after, by simp, head?_linkTokens closed⟩
    · intro link mem
      refine ⟨ne_missing_of_derives (operands link mem) (by simp), ihOperands link mem ?_⟩
      rw [List.append_assoc]
      exact ((standsIn_linkTokens closed link mem).behind ts).behind before
  | operand operand ih => exact ih inside
  | negated operand ih =>
    obtain ⟨before, after, rfl, closed⟩ := inside
    refine wellFormed_unary (ne_missing_of_derives operand (by simp)) (ih ?_)
    exact ((StandsIn.of_append closed).behind [_]).behind before
  | plus operand ih =>
    obtain ⟨before, after, rfl, closed⟩ := inside
    refine wellFormed_unary (ne_missing_of_derives operand (by simp)) (ih ?_)
    exact ((StandsIn.of_append closed).behind [_]).behind before
  | percents count operand ih =>
    obtain ⟨before, after, rfl, closed⟩ := inside
    refine wellFormed_percents (ne_missing_of_derives operand (by simp)) (ih ?_)
    refine ⟨before, List.replicate count Token.percent ++ after, by simp, ?_⟩
    cases count with
    | zero => exact closed
    | succ count => exact fun same => nomatch same
  | single atom ih => exact ih inside
  | @corners ts us sheet sheet' a b left right same ihLeft ihRight =>
    obtain ⟨before, after, rfl, closed⟩ := inside
    have left := ihLeft ⟨before, .colon :: (us ++ after), by simp, by simp⟩ _ (contains_self _)
    have right := ihRight ⟨before ++ ts ++ [Token.colon], after, by simp, closed⟩ _
      (contains_self _)
    exact wellFormed_of_children_nil ⟨left.1, inGrid_spanning left.2 right.2⟩ rfl
  | literal same =>
    obtain ⟨before, after, rfl, closed⟩ := inside
    exact proper_of_literal? same proper.of_append.1
  | cell sheet read inGrid =>
    obtain ⟨before, after, rfl, closed⟩ := inside
    have sheets := proper.of_append
    rw [List.append_assoc] at sheets
    exact wellFormed_of_children_nil ⟨proper_of_sheetTokens sheets, inGrid⟩ rfl
  | name name =>
    obtain ⟨before, after, rfl, closed⟩ := inside
    exact wellFormed_of_children_nil (proper.of_append.1.2 closed) rfl
  | emptyCall name =>
    obtain ⟨before, after, rfl, closed⟩ := inside
    exact wellFormed_of_children_nil ⟨⟨name, proper.of_append.1.1, rfl⟩, by simp⟩ rfl
  | call name arguments written each ih =>
    obtain ⟨before, after, rfl, closed⟩ := inside
    have isWord := proper.of_append.1.1
    refine wellFormed_iff.mpr ⟨⟨⟨name, isWord, rfl⟩, values_ne_missing written each⟩, ?_⟩
    intro child mem
    obtain ⟨argument, inArguments, rfl⟩ := List.mem_map.mp mem
    refine ih argument inArguments ?_
    have closing : (Token.rightParen :: after).head? ≠ some .leftParen := by simp
    have inside := (standsIn_commaTokens closing argument inArguments).behind
      (before ++ [Token.identifier name, .leftParen])
    simpa only [List.append_assoc, List.cons_append, List.nil_append] using inside
  | @parentheses ts first members head each ihHead ihEach =>
    obtain ⟨before, after, rfl, closed⟩ := inside
    have closing : (Token.rightParen :: after).head? ≠ some .leftParen := by simp
    refine wellFormed_uniteFrom (ne_missing_of_derives head (by simp)) (ihHead ?_) ?_
    · refine ⟨before ++ [Token.leftParen], memberTokens members ++ (.rightParen :: after),
        by simp, ?_⟩
      cases members with
      | nil => simp [memberTokens]
      | cons member members => simp [memberTokens_cons]
    · intro member mem
      refine ⟨ne_missing_of_derives (each member mem) (by simp), ihEach member mem ?_⟩
      simpa using (standsIn_memberTokens closing member mem).behind (before ++ .leftParen :: ts)
  | @array width rows nonempty wide rectangular each ih =>
    obtain ⟨before, after, rfl, closed⟩ := inside
    have closing : (Token.rightBrace :: after).head? ≠ some .leftParen := by simp
    refine wellFormed_iff.mpr ⟨⟨by simpa using nonempty, ⟨width, wide, ?_⟩, ?_⟩, ?_⟩
    · simpa using rectangular
    · intro values mem missing
      obtain ⟨row, inRows, rfl⟩ := List.mem_map.mp mem
      obtain ⟨element, inRow, value⟩ := List.mem_map.mp missing
      exact ne_missing_of_derives (each row inRows element inRow) (by simp) value
    · intro child mem
      obtain ⟨values, mem, inValues⟩ := List.mem_flatten.mp mem
      obtain ⟨row, inRows, rfl⟩ := List.mem_map.mp mem
      obtain ⟨element, inRow, rfl⟩ := List.mem_map.mp inValues
      refine ih row inRows element inRow ?_
      have inside := (standsIn_rowTokens closing row inRows element inRow).behind
        (before ++ [Token.leftBrace])
      simpa only [List.append_assoc, List.cons_append, List.nil_append] using inside
  | given formula ih => exact ih inside
  | leftOut => exact wellFormed_of_children_nil trivial rfl

/-- A text that was parsed is an equals sign and the tokens of a formula. -/
theorem exists_of_parse {text : String} {e : Expr} (h : parse text = .ok e)
    : ∃ cs, Unicode.trim text.toList = '=' :: cs ∧ Derives .formula (scanAll cs) e := by
  unfold parse at h
  split at h
  · next cs trimmed => exact ⟨cs, trimmed, Parse.formula_eq_ok.mp h⟩
  · cases h

/-- What was parsed is well formed, and no argument that was left out. -/
theorem wellFormed_of_parse {text : String} {e : Expr} (h : parse text = .ok e)
    : e.WellFormed ∧ e ≠ .missing := by
  obtain ⟨cs, _, derived⟩ := exists_of_parse h
  refine ⟨?_, ne_missing_of_derives derived (by simp)⟩
  exact wellFormed_of_derives derived (allProper_scanAll cs) ⟨[], [], by simp, by simp⟩

end Expr

end Spreadsheet
