import Spreadsheet.Proofs.Formula.AsWritten

/-! A formula that was parsed and written out again is parsed as the same formula, but for the
grouping of unions, which their text does not show. Where the text shows less than the formula, it
is still parsed as what it shows, as long as it can be read at all.
-/

namespace Spreadsheet.Expr

open Text Token

attribute [local simp] leftUnions asWritten

variable {e : Expr} {cs ds : List Char} {c : Char}

/-- Every well-formed formula that is readable in all its parts is read back from its text, by
induction on the formula. Members of unions are written without parentheses of their own, which is
why both ways of writing a formula go through the induction together.
-/
theorem renderedAs_of_wellFormed (wellFormed : e.WellFormed)
    (readable : ∀ part, e.Contains part → part.Readable) (present : e ≠ missing)
    : RenderedAs e e.asWritten.leftUnions ∧ RenderedMembersAs e e.asWritten.leftUnions := by
  induction e using induction_children with
  | step e ih =>
    obtain ⟨proper, wellFormed⟩ := wellFormed_iff.mp wellFormed
    obtain ⟨here, below⟩ := forall_contains_iff.mp readable
    have children : ∀ child ∈ e.children, child ≠ missing →
        RenderedAs child child.asWritten.leftUnions
          ∧ RenderedMembersAs child child.asWritten.leftUnions :=
      fun child mem => ih child mem (wellFormed child mem) (below child mem)
    have single (noUnion : e.isUnion = false) (h : RenderedAs e e.asWritten.leftUnions)
        : RenderedAs e e.asWritten.leftUnions ∧ RenderedMembersAs e e.asWritten.leftUnions :=
      ⟨h, h.members noUnion (by rw [isUnion_leftUnions, isUnion_asWritten, noUnion])⟩
    cases e with
    | missing => exact absurd rfl present
    | number x =>
      refine single rfl (renderedAs_literal (.number (shownNumber x)) (by simp; rfl) ?_ rfl)
      rw [chars]
      exact spells_number (scan?_shownNumber here)
    | text t =>
      refine single rfl (renderedAs_literal (.text t) (by simp; rfl) ?_ rfl)
      rw [chars]
      exact spells_text t
    | boolean b =>
      refine single rfl (renderedAs_literal (.boolean b) (by simp; rfl) ?_ rfl)
      rw [chars]
      exact spells_boolean b
    | error err =>
      refine single rfl (renderedAs_literal (.error err) (by simp; rfl) ?_ rfl)
      rw [chars]
      exact spells_error err
    | cell ref a =>
      refine single rfl ?_
      simpa using renderedAs_cell proper
    | range ref r =>
      refine single rfl ?_
      simpa using renderedAs_range proper
    | name n =>
      refine single rfl ⟨[.identifier n], ?_, ?_⟩
      · rw [chars]
        exact spells_name proper
      · rw [asWritten, leftUnions]
        · exact .of_atom (.name n)
        all_goals simp
    | binary op left right =>
      have hl := children left (by simp [Expr.children]) proper.1
      have hr := children right (by simp [Expr.children]) proper.2
      refine single rfl ?_
      rw [asWritten, leftUnions]
      exact renderedAs_binary op here hl.1 hr.1
    | union left right =>
      have hl := children left (by simp [Expr.children]) proper.1
      have hr := children right (by simp [Expr.children]) proper.2
      rw [asWritten, leftUnions]
      exact ⟨renderedAs_union hl.2 hr.2, renderedMembersAs_union hl.2 hr.2⟩
    | unary op operand =>
      have h := children operand (by simp [Expr.children]) proper
      refine single rfl ?_
      rw [asWritten, leftUnions]
      exact renderedAs_unary op h.1
    | call f arguments =>
      have each : ∀ e ∈ arguments, e = missing ∧ e.asWritten.leftUnions = missing
          ∨ RenderedAs e e.asWritten.leftUnions := by
        intro e mem
        by_cases leftOut : e = missing
        · subst leftOut
          exact .inl ⟨rfl, by simp⟩
        · exact .inr (children e mem leftOut).1
      have called := renderedAs_call proper here each eq_singleton_missing_of_asWritten
      refine single rfl ?_
      rw [asWritten, leftUnions, leftUnionsList_eq_map, asWrittenList_eq_map, List.map_map]
      exact called
    | array rows =>
      have written := renderedAs_array (f := fun e => e.asWritten.leftUnions) proper ?_
      · refine single rfl ?_
        rw [asWritten, leftUnions, leftUnionsRows_eq_map, asWrittenRows_eq_map]
        simpa [Function.comp_def] using written
      · intro row inRows e inRow
        refine (children e (List.mem_flatten.mpr ⟨row, inRows, inRow⟩) ?_).1
        intro same
        subst same
        exact proper.2.2 row inRows inRow

/-- A formula that is legible in all its parts is read back as itself, but for its unions. -/
theorem rendered_of_wellFormed (wellFormed : e.WellFormed)
    (legible : ∀ part, e.Contains part → part.Legible) (present : e ≠ missing)
    : RenderedAs e e.leftUnions ∧ RenderedMembersAs e e.leftUnions := by
  have readable := readable_of_legible wellFormed legible
  have rendered := renderedAs_of_wellFormed wellFormed readable present
  rwa [asWritten_eq_self wellFormed legible] at rendered

-- White space at the end would be trimmed

/-- A text does not end in white space. -/
def EndsVisibly (cs : List Char) : Prop :=
  ∀ c ∈ cs.getLast?, Unicode.isWhiteSpace c = false

theorem endsVisibly_append (h : EndsVisibly cs) (h' : EndsVisibly ds) : EndsVisibly (cs ++ ds) := by
  intro c last
  rw [List.getLast?_append] at last
  rcases Option.or_eq_some_iff.mp last with last | ⟨_, last⟩
  · exact h' c last
  · exact h c last

theorem endsVisibly_of_forall (h : ∀ c ∈ cs, Unicode.isWhiteSpace c = false) : EndsVisibly cs :=
  fun c last => h c (List.mem_of_mem_getLast? last)

theorem endsVisibly_of_all (h : cs.all fun c => !Unicode.isWhiteSpace c) : EndsVisibly cs :=
  endsVisibly_of_forall fun c mem => by simpa using List.all_eq_true.mp h c mem

theorem endsVisibly_concat (cs : List Char) (visible : Unicode.isWhiteSpace c = false)
    : EndsVisibly (cs ++ [c]) := by
  intro d last
  rw [List.getLast?_concat] at last
  cases last
  exact visible

theorem endsVisibly_enclosed (parentheses : Bool) (h : EndsVisibly cs)
    : EndsVisibly (enclosed parentheses cs) := by
  cases parentheses with
  | true => exact endsVisibly_concat _ (by decide)
  | false => exact h

theorem endsVisibly_number {x : Float} (h : scan? cs = some (.number x, [])) : EndsVisibly cs := by
  obtain ⟨c, more, found, _, read⟩ := exists_of_number h
  rw [← List.takeWhile_append_dropWhile (p := Unicode.isWhiteSpace) (l := cs), found]
  intro d last
  rw [List.getLast?_append] at last
  rcases Option.or_eq_some_iff.mp last with last | ⟨none, _⟩
  · exact not_isWhiteSpace_of_toFloat? read (List.mem_of_mem_getLast? last)
  · simp at none

theorem endsVisibly_sheetChars (ref : Option SheetRef) : EndsVisibly (sheetChars ref) := by
  cases ref with
  | none => exact fun c last => nomatch last
  | some r => exact endsVisibly_concat _ (by decide)

theorem endsVisibly_address (a : Address) : EndsVisibly a.chars :=
  endsVisibly_of_forall fun _ mem => Address.not_isWhiteSpace mem

/-- No formula ends in white space, by induction on the formula. -/
theorem endsVisibly_of_readable (member : Bool) (wellFormed : e.WellFormed)
    (readable : ∀ part, e.Contains part → part.Readable)
    : EndsVisibly (e.chars member) := by
  induction e using induction_children generalizing member with
  | step e ih =>
    obtain ⟨proper, wellFormed⟩ := wellFormed_iff.mp wellFormed
    obtain ⟨here, below⟩ := forall_contains_iff.mp readable
    have children (member : Bool) : ∀ child ∈ e.children, EndsVisibly (child.chars member) :=
      fun child mem => ih child mem member (wellFormed child mem) (below child mem)
    cases e with
    | missing =>
      rw [chars]
      exact fun c last => nomatch last
    | number x =>
      rw [chars]
      exact endsVisibly_number (scan?_shownNumber here)
    | text t =>
      rw [chars]
      exact endsVisibly_concat _ (by decide)
    | boolean b =>
      rw [chars]
      cases b <;> exact endsVisibly_of_all (by decide)
    | error err =>
      rw [chars]
      cases err <;> exact endsVisibly_of_all (by decide)
    | cell ref a =>
      rw [chars]
      exact endsVisibly_append (endsVisibly_sheetChars ref) (endsVisibly_address a)
    | range ref r =>
      have written : r.cornerText.toList = r.first.chars ++ ':' :: r.last.chars := by
        simp [Range.cornerText, Address.text]
      rw [chars, written]
      have last : EndsVisibly ([':'] ++ r.last.chars) :=
        endsVisibly_append (endsVisibly_of_all (by decide)) (endsVisibly_address r.last)
      exact endsVisibly_append (endsVisibly_sheetChars ref)
        (endsVisibly_append (endsVisibly_address r.first) last)
    | name n =>
      rw [chars]
      have isName : IsName n := proper
      exact endsVisibly_of_forall fun c mem =>
        not_isWhiteSpace_of_isIdentifierChar (isName.chars c mem)
    | binary op left right =>
      have symbol : EndsVisibly op.symbol.toList := by
        rcases op with op | op | _
        · cases op <;> exact endsVisibly_of_all (by decide)
        · cases op <;> exact endsVisibly_of_all (by decide)
        · exact endsVisibly_of_all (by decide)
      have hl := children false left (by simp [Expr.children])
      have hr := children false right (by simp [Expr.children])
      rw [chars]
      exact endsVisibly_append (endsVisibly_append (endsVisibly_enclosed _ hl) symbol)
        (endsVisibly_enclosed _ hr)
    | union left right =>
      have hl := children true left (by simp [Expr.children])
      have hr := children true right (by simp [Expr.children])
      have last : EndsVisibly ([','] ++ right.chars true) :=
        endsVisibly_append (endsVisibly_of_all (by decide)) hr
      rw [chars]
      exact endsVisibly_enclosed _ (endsVisibly_append hl last)
    | unary op operand =>
      have h := children false operand (by simp [Expr.children])
      cases op with
      | percent =>
        rw [chars]
        exact endsVisibly_concat _ (by decide)
      | negate =>
        rw [chars]
        · exact endsVisibly_append (endsVisibly_of_all (by decide)) (endsVisibly_enclosed _ h)
        · simp
      | plus =>
        rw [chars]
        · exact endsVisibly_append (endsVisibly_of_all (by decide)) (endsVisibly_enclosed _ h)
        · simp
    | call f arguments =>
      rw [chars]
      exact endsVisibly_concat _ (by decide)
    | array rows =>
      rw [chars]
      exact endsVisibly_concat _ (by decide)

theorem endsVisibly_chars (member : Bool) (wellFormed : e.WellFormed)
    (legible : ∀ part, e.Contains part → part.Legible)
    : EndsVisibly (e.chars member) :=
  endsVisibly_of_readable member wellFormed (readable_of_legible wellFormed legible)

/-- Nothing is trimmed off a text that does not end in white space. -/
theorem parse_eq_formula (visible : EndsVisibly cs)
    : parse (String.ofList ('=' :: cs)) = Parse.formula (scanAll cs) := by
  have trimmed : Unicode.trim ('=' :: cs) = '=' :: cs := by
    refine Unicode.trim_eq_self (fun c first => ?_) ?_
    · cases first
      decide
    · have sign : EndsVisibly ['='] := endsVisibly_of_all (by decide)
      exact endsVisibly_append sign visible
  rw [parse, String.toList_ofList, trimmed]
  rfl

/-- A text is parsed as the formula that its tokens stand for. -/
theorem parse_of_spells {ts : List Token} {x : Expr} (spells : Spells cs ts)
    (derived : Grammar.Derives .formula ts x) (visible : EndsVisibly cs)
    : parse (String.ofList ('=' :: cs)) = .ok x := by
  rw [parse_eq_formula visible, spells.scanAll_eq]
  exact Parse.formula_eq_ok.mpr derived

theorem render_eq (e : Expr) : "=" ++ e.render = String.ofList ('=' :: e.chars false) := by
  rw [render, ← String.toList_inj]
  simp

theorem parse_render_of_spells {ts : List Token} {x : Expr} (spells : Spells (e.chars false) ts)
    (derived : Grammar.Derives .formula ts x) (visible : EndsVisibly (e.chars false))
    : parse ("=" ++ e.render) = .ok x := by
  rw [render_eq]
  exact parse_of_spells spells derived visible

/-- A formula that was parsed is read back from its own text with all its unions grouped to the
left. These keep their members in order, and stay as they are if they were grouped so before.
-/
theorem parse_render {text : String} (parsed : parse text = .ok e)
    (legible : ∀ part, e.Contains part → part.Legible)
    : parse ("=" ++ e.render) = .ok e.leftUnions
      ∧ e.leftUnions.LeftGrouped
      ∧ e.leftUnions.unionMembers = e.unionMembers.map leftUnions
      ∧ (e.LeftGrouped → e.leftUnions = e) := by
  obtain ⟨wellFormed, present⟩ := wellFormed_of_parse parsed
  obtain ⟨ts, spells, derived⟩ := (rendered_of_wellFormed wellFormed legible present).1.formula
  refine ⟨?_, leftGrouped_leftUnions e, unionMembers_leftUnions e, leftUnions_eq_self⟩
  exact parse_render_of_spells spells derived (endsVisibly_chars false wellFormed legible)

/-- The grouping of a union is not read back. -/
theorem parse_render_nested_union
    : let a : Expr := .cell none { row := 0, col := 0 }
      let b : Expr := .cell none { row := 0, col := 1 }
      let c : Expr := .cell none { row := 0, col := 2 }
      let e : Expr := .binary (.arithmetic .divide) (.union a (.union b c)) (.error .na)
      parse "=(A1,(B1,C1))/#N/A" = .ok e
        ∧ parse ("=" ++ e.render)
          = .ok (.binary (.arithmetic .divide) (.union (.union a b) c) (.error .na)) := by
  intro a b c e
  have parsed : parse "=(A1,(B1,C1))/#N/A" = .ok e := by
    with_unfolding_all rfl
  have noError : ¬EndsInError ((Expr.union a (.union b c)).chars false) := by
    have written : (Expr.union a (.union b c)).chars false = "(A1,B1,C1)".toList := by
      with_unfolding_all rfl
    intro ends
    obtain ⟨err, suffix⟩ := ends
    rw [written] at suffix
    revert suffix
    cases err <;> decide
  have legible : ∀ part, e.Contains part → part.Legible := by
    have cell (col : Nat) : (Expr.cell none { row := 0, col }).Legible := fun _ none => nomatch none
    have joined {x y : Expr} (left : ∀ part, x.Contains part → part.Legible)
        (right : ∀ part, y.Contains part → part.Legible)
        : ∀ child ∈ [x, y], ∀ part, child.Contains part → part.Legible := by
      simpa using ⟨left, right⟩
    have union (x y : Expr) (h : ∀ child ∈ [x, y], ∀ part, child.Contains part → part.Legible)
        : ∀ part, (Expr.union x y).Contains part → part.Legible :=
      forall_contains_iff.mpr ⟨trivial, h⟩
    have leaf (col : Nat) := forall_contains_of_leaf rfl (cell col)
    have inner := union b c (joined (leaf 1) (leaf 2))
    have outer := union a (.union b c) (joined (leaf 0) inner)
    have right := forall_contains_of_leaf (P := Legible) (e := .error .na) rfl trivial
    exact forall_contains_iff.mpr ⟨fun _ => noError, joined outer right⟩
  exact ⟨parsed, (parse_render parsed legible).1⟩

-- Formulas that are read back as other ones

/-- A formula that was parsed is accepted again from its own text, as what the text shows of it, if
it is readable in all its parts: its numbers are read back as numbers, no division has the literal
of an error right in front of its slash, and the functions are still called by words in upper case.
-/
theorem parse_render_of_readable {text : String} (parsed : parse text = .ok e)
    (readable : ∀ part, e.Contains part → part.Readable)
    : parse ("=" ++ e.render) = .ok e.asWritten.leftUnions := by
  obtain ⟨wellFormed, present⟩ := wellFormed_of_parse parsed
  obtain ⟨ts, spells, derived⟩ := (renderedAs_of_wellFormed wellFormed readable present).1.formula
  exact parse_render_of_spells spells derived (endsVisibly_of_readable false wellFormed readable)

/-- An index that is too great is read back as another one, and letters outside ASCII can stand in
the name of a function.
-/
theorem parse_render_of_readable_call
    : let outside (index : Nat) : Expr :=
        .cell (some { book := some index, first := "Sheet1" }) { row := 0, col := 0 }
      let quotient : Expr := .binary (.arithmetic .divide) (.number 1) (.number 2)
      let sum (index : Nat) : Expr :=
        .binary (.arithmetic .add) (outside index) (.call "FÉ" [quotient])
      parse "=[4294967295]Sheet1!A1+fé(1/2)" = .ok (sum 4294967295)
        ∧ parse ("=" ++ (sum 4294967295).render) = .ok (sum 2147483647) := by
  intro outside quotient sum
  have parsed : parse "=[4294967295]Sheet1!A1+fé(1/2)" = .ok (sum 4294967295) := by
    with_unfolding_all rfl
  have shown : (sum 4294967295).asWritten.leftUnions = sum 2147483647 := by
    with_unfolding_all rfl
  have one : (Expr.number 1).Readable := ⟨1, by with_unfolding_all rfl⟩
  have two : (Expr.number 2).Readable := ⟨2, by with_unfolding_all rfl⟩
  have apart : quotient.Readable := by
    intro _ ends
    obtain ⟨err, suffix⟩ := ends
    have written : enclosed ((Expr.number 1).level < BinaryOperator.level (.arithmetic .divide))
        ((Expr.number 1).chars false) = ['1'] := by
      with_unfolding_all rfl
    rw [written] at suffix
    revert suffix
    cases err <;> decide
  have word : (Expr.call "FÉ" [quotient]).Readable := by
    have all : "FÉ".toList.all isIdentifierChar := by decide +kernel
    exact fun c mem => List.all_eq_true.mp all c mem
  have readable : ∀ part, (sum 4294967295).Contains part → part.Readable := by
    have divided : ∀ part, quotient.Contains part → part.Readable := by
      refine forall_contains_iff.mpr ⟨apart, ?_⟩
      simpa [quotient, children]
        using ⟨forall_contains_of_leaf rfl one, forall_contains_of_leaf rfl two⟩
    have called : ∀ part, (Expr.call "FÉ" [quotient]).Contains part → part.Readable :=
      forall_contains_iff.mpr ⟨word, by simpa [children] using divided⟩
    refine forall_contains_iff.mpr ⟨nofun, ?_⟩
    have referred := forall_contains_of_leaf (P := Readable) (e := outside 4294967295) rfl trivial
    simpa [sum, children] using ⟨referred, called⟩
  exact ⟨parsed, (parse_render_of_readable parsed readable).trans (congrArg Except.ok shown)⟩

/-- A slash behind the literal of an error is scanned as a part of it, and the capital of a letter
can hold an accent that no word holds.
-/
theorem parse_render_of_slash_or_accent
    : let slash : Expr := .binary (.arithmetic .divide) (.error .div0) (.number 2)
      let accent : Expr := .call "AJ\u030c" [.number 1]
      (parse "=(#DIV/0!)/2" = .ok slash
        ∧ scan? (Number.general 2).toList = some (.number 2, [])
        ∧ parse ("=" ++ slash.render) = .error (.unreadable "#DIV/0!/2"))
      ∧ (parse "=a\u01f0(1)" = .ok accent
        ∧ scan? (Number.general 1).toList = some (.number 1, [])
        ∧ parse ("=" ++ accent.render) = .error (.trailing (.invalid "\u030c"))) := by
  intro slash accent
  have slashChars : slash.chars false = "#DIV/0!/2".toList := by
    with_unfolding_all rfl
  have accentChars : accent.chars false = "AJ".toList ++ '\u030c' :: "(1)".toList := by
    with_unfolding_all rfl
  have scanned : scanAll (accent.chars false)
      = [.identifier "AJ", .invalid "\u030c", .leftParen, .number 1, .rightParen] := by
    have isWord : IsWord "AJ" :=
      ⟨⟨'A', rfl, rfl⟩, List.all_eq_true.mp (show "AJ".toList.all isIdentifierChar by decide)⟩
    have stops : StopsAt isIdentifierChar ('\u030c' :: "(1)".toList) :=
      stopsAt_cons (by decide +kernel)
    have word : scanWord ("AJ".toList ++ '\u030c' :: "(1)".toList)
        = (.identifier "AJ", '\u030c' :: "(1)".toList) := by
      rw [scanWord_plain isWord stops (by decide) (by simp)]
      rfl
    have mark : scanAt '\u030c' "(1)".toList = (.invalid "\u030c", "(1)".toList) := by
      rw [scanAt_of_not_mem_signs (by decide), if_neg (by decide), if_neg (by decide),
        if_neg (by decide)]
      rfl
    have one : scanAll "(1)".toList = [.leftParen, .number 1, .rightParen] := by
      with_unfolding_all rfl
    rw [accentChars, scanAll_word isWord word, scanAll_cons (by decide) mark, one]
  refine ⟨⟨?_, ?_, ?_⟩, ?_, ?_, ?_⟩
  · with_unfolding_all rfl
  · with_unfolding_all rfl
  · have visible : EndsVisibly (slash.chars false) := by
      rw [slashChars]
      exact endsVisibly_of_all (by decide)
    rw [render_eq, parse_eq_formula visible, slashChars]
    with_unfolding_all rfl
  · with_unfolding_all rfl
  · with_unfolding_all rfl
  · have visible : EndsVisibly (accent.chars false) := by
      rw [accentChars]
      exact endsVisibly_of_all (by decide)
    rw [render_eq, parse_eq_formula visible, scanned]
    with_unfolding_all rfl

end Spreadsheet.Expr
