import Mathlib.Data.List.Induction
import Spreadsheet.Proofs.Formula.LeftUnions
import Spreadsheet.Proofs.Formula.Operands
import Spreadsheet.Proofs.Formula.SheetText
import Spreadsheet.Proofs.Formula.WellFormed
import Spreadsheet.Proofs.Grid.Range

/-! What the text of a formula is read back as: one lemma for each kind of formula, given what the
formulas below it are read back as. Of a tree of unions the text shows the members only.
-/

namespace Spreadsheet

open Grammar Token

namespace Expr

attribute [local simp] chars

/-- What a formula is, apart from the formulas below it, can be told from its text: numbers are
read back as they are, the index of a workbook is not cut short, the upper case of a function's
name is ASCII, and a slash does not stand right behind the literal of an error.
-/
def Legible : Expr → Prop
  | number x => scan? (Number.general x).toList = some (.number x, [])
  | cell ref _ => ∀ r ∈ ref, ∀ n ∈ r.book, n ≤ SheetRef.maxWrittenBook
  | range ref _ => ∀ r ∈ ref, ∀ n ∈ r.book, n ≤ SheetRef.maxWrittenBook
  | binary op left _ =>
    op = .arithmetic .divide
      → ¬EndsInError (enclosed (left.level < op.level) (left.chars false))
  | call f _ => ∀ c ∈ f.toList, c.toNat < 0x80
  | _ => True

/-- A formula can be read again from its text, though maybe as another one, given that the formulas
below it can: numbers are read back as numbers, a function's name is still a word in upper case, and
a slash does not stand right behind the literal of an error.
-/
def Readable : Expr → Prop
  | number x => ∃ y, scan? (Number.general x).toList = some (.number y, [])
  | binary op left _ =>
    op = .arithmetic .divide
      → ¬EndsInError (enclosed (left.level < op.level) (left.chars false))
  | call f _ => ∀ c ∈ f.toList, isIdentifierChar c
  | _ => True

/-- The text of a formula is read back as a formula. -/
def RenderedAs (e x : Expr) : Prop :=
  ∃ ts, Spells (e.chars false) ts ∧ Binds e.level ts x

/-- The text of a member of a union, which may be several members itself, is read back as these. -/
def RenderedMembersAs (e x : Expr) : Prop :=
  ∃ ts first members, Spells (e.chars true) (ts ++ memberTokens members)
    ∧ Derives .formula ts first ∧ first.isUnion = false
    ∧ (∀ member ∈ members, Derives .formula member.tokens member.value)
    ∧ x = uniteFrom first members

variable {e x y left right operand : Expr} {sheet : Option SheetRef} {f : Expr → Expr}

theorem one_le_level (e : Expr) : 1 ≤ e.level := by
  cases e with
  | binary op left right => exact op.level_bounds.1
  | unary op operand => cases op <;> simp [level, unaryLevel, percentLevel]
  | _ => simp [level, atomLevel]

theorem RenderedAs.formula (h : RenderedAs e x)
    : ∃ ts, Spells (e.chars false) ts ∧ Derives .formula ts x := by
  obtain ⟨ts, spells, binds⟩ := h
  exact ⟨ts, spells, binds.formula e.one_le_level⟩

/-- With parentheses where its level is too low, a formula can stand in any place. -/
theorem RenderedAs.enclosed (h : RenderedAs e x) (level : Nat) (parentheses : Bool)
    (low : level ≤ atomLevel) (high : parentheses = false → level ≤ e.level)
    : ∃ ts, Spells (Expr.enclosed parentheses (e.chars false)) ts ∧ Binds level ts x := by
  cases parentheses with
  | true =>
    obtain ⟨ts, spells, derived⟩ := h.formula
    exact ⟨_, spells.parentheses, (Binds.parentheses derived).of_le low⟩
  | false =>
    obtain ⟨ts, spells, binds⟩ := h
    exact ⟨ts, spells, binds.of_le (high rfl)⟩

-- References, operators and literals

theorem renderedAs_cell {a : Address} (proper : (cell sheet a).Proper)
    : RenderedAs (cell sheet a) (cell (sheet.map SheetRef.written) a) := by
  have spells := (spells_address proper.2).behindSheets proper.1
  refine ⟨sheetTokens (sheet.map SheetRef.written) ++ [Token.cell a.text], ?_, ?_⟩
  · rw [chars]
    rwa [Address.text, String.toList_ofList] at spells
  · exact .of_atom (.cell _ (Address.parse_text proper.2) proper.2)

theorem renderedAs_range {r : Range} (proper : (range sheet r).Proper)
    : RenderedAs (range sheet r) (range (sheet.map SheetRef.written) r) := by
  obtain ⟨sheets, first, last⟩ := proper
  have spells := (spells_corners first last).behindSheets sheets
  have written : r.cornerText.toList = r.first.text.toList ++ ':' :: r.last.text.toList := by
    simp [Range.cornerText]
  refine ⟨sheetTokens (sheet.map SheetRef.written)
    ++ [Token.cell r.first.text, .colon, .cell r.last.text], ?_, ?_⟩
  · rw [chars, written]
    exact spells
  · have left : Derives .atom
        (sheetTokens (sheet.map SheetRef.written) ++ [Token.cell r.first.text])
        (.cell (sheet.map SheetRef.written) r.first) :=
      .cell _ (Address.parse_text first) first
    have right : Derives .atom [.cell r.last.text] (.cell none r.last) :=
      .cell none (Address.parse_text last) last
    have corners := Derives.corners left right (.inl rfl)
    rw [Range.spanning_corners, List.append_assoc] at corners
    exact .of_range corners

theorem renderedAs_binary (op : BinaryOperator) (readable : (binary op left right).Readable)
    (hl : RenderedAs left x) (hr : RenderedAs right y)
    : RenderedAs (binary op left right) (binary op x y) := by
  have low : op.level + 1 ≤ atomLevel := Nat.le_trans op.level_bounds.2 (by decide)
  obtain ⟨ts, spells, binds⟩ := hl.enclosed op.level (left.level < op.level)
    (Nat.le_of_succ_le low) fun told => Nat.le_of_not_lt (of_decide_eq_false told)
  obtain ⟨us, spells', binds'⟩ := hr.enclosed (op.level + 1) (right.level ≤ op.level)
    low fun told => Nat.lt_of_not_le (of_decide_eq_false told)
  have derived : Derives .formula us y := binds'.formula (Nat.succ_pos _)
  obtain ⟨nonempty, noEqual, noGreater⟩ := spells'.head_ne derived (by simp)
  refine ⟨ts ++ op.token :: us, ?_, ?_⟩
  · rw [chars, List.append_assoc]
    refine spells.append (spells'.operator op noEqual noGreater nonempty) ?_ (by simp [nonempty])
    exact op.delimited_symbol fun divides => readable divides
  · exact binds.binary op binds'

theorem renderedAs_unary (op : UnaryOperator) (h : RenderedAs operand x)
    : RenderedAs (unary op operand) (unary op x) := by
  cases op with
  | percent =>
    obtain ⟨ts, spells, binds⟩ := h.enclosed percentLevel (operand.level < percentLevel) (by decide)
      fun told => Nat.le_of_not_lt (of_decide_eq_false told)
    refine ⟨ts ++ [Token.percent], ?_, ?_⟩
    · rw [chars]
      exact spells.append (spells_punctuation (by decide) rfl)
        (delimited_cons (by decide) (by decide)) (by simp)
    · exact binds.percent
  | negate =>
    obtain ⟨ts, spells, binds⟩ := h.enclosed unaryLevel (operand.level < unaryLevel) (by decide)
      fun told => Nat.le_of_not_lt (of_decide_eq_false told)
    refine ⟨.minus :: ts, ?_, ?_⟩
    · rw [chars]
      · exact spells.cons (by decide) rfl
      · simp
    · exact .of_signed (.negated binds.signed)
  | plus =>
    obtain ⟨ts, spells, binds⟩ := h.enclosed unaryLevel (operand.level < unaryLevel) (by decide)
      fun told => Nat.le_of_not_lt (of_decide_eq_false told)
    refine ⟨.plus :: ts, ?_, ?_⟩
    · rw [chars]
      · exact spells.cons (by decide) rfl
      · simp
    · exact .of_signed (.plus binds.signed)

theorem renderedAs_literal (token : Token) (same : token.literal? = some x)
    (spells : Spells (e.chars false) [token]) (level : e.level = atomLevel)
    : RenderedAs e x := by
  refine ⟨[token], spells, ?_⟩
  rw [level]
  exact .of_atom (.literal same)

-- Unions

/-- Apart from unions, every formula is one member. -/
theorem RenderedAs.members (h : RenderedAs e x) (single : e.isUnion = false)
    (single' : x.isUnion = false)
    : RenderedMembersAs e x := by
  obtain ⟨ts, spells, derived⟩ := h.formula
  have same : e.chars true = e.chars false := by
    cases e with
    | union => cases single
    | unary op => cases op <;> simp
    | _ => simp
  refine ⟨ts, x, [], ?_, derived, single', by simp, rfl⟩
  rw [same, memberTokens, List.flatMap_nil, List.append_nil]
  exact spells

theorem uniteLeft_uniteFrom {first : Expr} (members : List Phrase) (single : first.isUnion = false)
    : uniteLeft left (uniteFrom first members) = uniteFrom (.union left first) members := by
  induction members using List.reverseRecOn with
  | nil => exact uniteLeft_of_not_isUnion single
  | append_singleton members last ih =>
    simp only [uniteFrom, List.foldl_append, List.foldl_cons, List.foldl_nil] at ih ⊢
    rw [uniteLeft, ih]

/-- The members of a union follow one another, and no parentheses tell how they were grouped. -/
theorem renderedMembersAs_union (hl : RenderedMembersAs left x) (hr : RenderedMembersAs right y)
    : RenderedMembersAs (union left right) (uniteLeft x y) := by
  obtain ⟨ts, first, members, spells, derived, single, each, rfl⟩ := hl
  obtain ⟨us, first', members', spells', derived', single', each', rfl⟩ := hr
  refine ⟨ts, first, members ++ ⟨us, first'⟩ :: members', ?_, derived, single, ?_, ?_⟩
  · have tokens : ts ++ memberTokens (members ++ ⟨us, first'⟩ :: members')
        = (ts ++ memberTokens members) ++ .comma :: (us ++ memberTokens members') := by
      simp [memberTokens]
    rw [chars, tokens]
    exact spells.separated ',' spells' rfl (by decide)
  · intro member mem
    rcases List.mem_append.mp mem with mem | mem
    · exact each member mem
    · rcases List.mem_cons.mp mem with rfl | mem
      · exact derived'
      · exact each' member mem
  · rw [uniteLeft_uniteFrom members' single']
    simp [uniteFrom]

theorem renderedAs_union (hl : RenderedMembersAs left x) (hr : RenderedMembersAs right y)
    : RenderedAs (union left right) (uniteLeft x y) := by
  obtain ⟨ts, first, members, spells, derived, _, each, grouped⟩ := renderedMembersAs_union hl hr
  refine ⟨.leftParen :: (ts ++ memberTokens members) ++ [Token.rightParen], ?_, ?_⟩
  · have written : (union left right).chars false
        = '(' :: (union left right).chars true ++ [')'] := by
      rw [chars, chars]
      rfl
    rw [written]
    exact spells.parentheses
  · rw [grouped]
    exact .of_atom (.parentheses members derived each)

-- Arrays and calls

/-- Formulas in a list are read back one by one. -/
theorem exists_phrases {symbol : Symbol} {es : List Expr}
    (each : ∀ e ∈ es, ∃ ts, Spells (e.chars false) ts ∧ Derives symbol ts (f e))
    : ∃ phrases, Spells (listChars es) (commaTokens phrases)
      ∧ phrases.map Phrase.value = es.map f
      ∧ ∀ p ∈ phrases, Derives symbol p.tokens p.value := by
  induction es with
  | nil => exact ⟨[], spells_nil, rfl, by simp⟩
  | cons e es ih =>
    simp only [List.forall_mem_cons] at each
    obtain ⟨⟨ts, spells, derived⟩, others⟩ := each
    obtain ⟨phrases, spells', values, all⟩ := ih others
    refine ⟨⟨ts, f e⟩ :: phrases, ?_, by simp [values], ?_⟩
    · cases es with
      | nil =>
        obtain rfl := List.map_eq_nil_iff.mp values
        rw [listChars, commaTokens_singleton]
        exact spells
      | cons e' es =>
        have more : phrases ≠ [] := by
          intro none
          rw [none] at values
          cases values
        rw [listChars, commaTokens_cons _ more]
        exact spells.separated ',' spells' rfl (by decide)
    · simp only [List.forall_mem_cons]
      exact ⟨derived, all⟩

/-- Rows of formulas are read back row by row. -/
theorem exists_rows {rows : List (List Expr)}
    (each : ∀ row ∈ rows, ∀ e ∈ row,
      ∃ ts, Spells (e.chars false) ts ∧ Derives .formula ts (f e))
    : ∃ phrases, Spells (rowsChars rows) (rowTokens phrases)
      ∧ (phrases.map fun row => row.map Phrase.value) = rows.map (fun row => row.map f)
      ∧ ∀ row ∈ phrases, ∀ p ∈ row, Derives .formula p.tokens p.value := by
  induction rows with
  | nil => exact ⟨[], spells_nil, rfl, by simp⟩
  | cons row rows ih =>
    simp only [List.forall_mem_cons] at each
    obtain ⟨first, spells, values, derived⟩ := exists_phrases each.1
    obtain ⟨phrases, spells', values', all⟩ := ih each.2
    refine ⟨first :: phrases, ?_, by simp [values, values'], ?_⟩
    · cases rows with
      | nil =>
        obtain rfl := List.map_eq_nil_iff.mp values'
        rw [rowsChars, rowTokens_singleton]
        exact spells
      | cons row' rows =>
        have more : phrases ≠ [] := by
          intro none
          rw [none] at values'
          cases values'
        rw [rowsChars, rowTokens_cons _ more]
        exact spells.separated ';' spells' rfl (by decide)
    · simp only [List.forall_mem_cons]
      exact ⟨derived, all⟩

theorem renderedAs_array {rows : List (List Expr)} (proper : (array rows).Proper)
    (each : ∀ row ∈ rows, ∀ e ∈ row, RenderedAs e (f e))
    : RenderedAs (array rows) (array (rows.map fun row => row.map f)) := by
  obtain ⟨nonempty, ⟨width, wide, even⟩, _⟩ := proper
  obtain ⟨phrases, spells, values, all⟩ :=
    exists_rows fun row inRows e inRow => (each row inRows e inRow).formula
  have rectangular : ∀ row ∈ phrases, row.length = width := by
    intro row inRows
    have mem : row.map Phrase.value ∈ rows.map fun row => row.map f := by
      rw [← values]
      exact List.mem_map_of_mem inRows
    obtain ⟨row', inRows', same⟩ := List.mem_map.mp mem
    have length := congrArg List.length same
    simp only [List.length_map] at length
    rw [← length, even row' inRows']
  refine ⟨.leftBrace :: rowTokens phrases ++ [Token.rightBrace], ?_, ?_⟩
  · have closed := spells.append (spells_punctuation (c := '\x7d') (by decide) rfl)
      (delimited_cons (by decide) (by decide)) (by simp)
    rw [chars]
    exact closed.cons (by decide) rfl
  · have array := Derives.array phrases ?_ wide rectangular all
    · rw [← values]
      exact .of_atom array
    · intro none
      rw [none] at values
      exact nonempty (List.map_eq_nil_iff.mp values.symm)

/-- An argument that was left out is read back as such. -/
theorem exists_argument (h : e = missing ∧ x = missing ∨ RenderedAs e x)
    : ∃ ts, Spells (e.chars false) ts ∧ Derives .argument ts x := by
  rcases h with ⟨rfl, rfl⟩ | h
  · exact ⟨[], by rw [chars]; exact spells_nil, .leftOut⟩
  · obtain ⟨ts, spells, derived⟩ := h.formula
    exact ⟨ts, spells, .given derived⟩

/-- Of arguments something is written, unless there is just one and it was left out. -/
theorem commaTokens_ne_nil {arguments : List Phrase} (nonempty : arguments ≠ [])
    (written : arguments.map Phrase.value ≠ [missing])
    (all : ∀ p ∈ arguments, Derives .argument p.tokens p.value)
    : commaTokens arguments ≠ [] := by
  rcases arguments with _ | ⟨⟨ts, value⟩, _ | ⟨q, arguments⟩⟩
  · exact absurd rfl nonempty
  · rw [commaTokens_singleton]
    cases all _ List.mem_cons_self with
    | given derived =>
      obtain ⟨token, us, rfl, _⟩ := derived.head (by simp)
      simp
    | leftOut => exact absurd rfl written
  · rw [commaTokens_cons _ (by simp)]
    simp

theorem renderedAs_call {name : String} {arguments : List Expr}
    (proper : (call name arguments).Proper) (readable : (call name arguments).Readable)
    (each : ∀ e ∈ arguments, e = missing ∧ f e = missing ∨ RenderedAs e (f e))
    (present : arguments.map f = [missing] → arguments = [missing])
    : RenderedAs (call name arguments) (call (Text.upper name) (arguments.map f)) := by
  obtain ⟨⟨word, isWord, rfl⟩, written⟩ := proper
  have isWord' : IsWord (Text.upper word) := isWord_upper isWord readable
  obtain ⟨phrases, spells, values, all⟩ := exists_phrases fun e mem => exists_argument (each e mem)
  refine ⟨.identifier (Text.upper word) :: .leftParen :: commaTokens phrases
    ++ [Token.rightParen], ?_, ?_⟩
  · intro rest _
    have closed : Delimited (listChars arguments) (')' :: rest) :=
      delimited_cons (by decide) (by decide)
    rw [chars, List.append_assoc, List.append_assoc, List.cons_append, scanAll_call isWord',
      List.cons_append, List.nil_append, spells _ closed, scanAll_cons (c := ')') (by decide) rfl]
    simp
  · rw [← values] at present ⊢
    refine .of_atom ?_
    by_cases nonempty : phrases = []
    · subst nonempty
      exact .emptyCall (Text.upper word)
    · have something := commaTokens_ne_nil nonempty (fun same => written (present same)) all
      exact .call (Text.upper word) phrases something all

end Expr

end Spreadsheet
