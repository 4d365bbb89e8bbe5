import Spreadsheet.Proofs.Formula.Openings
import Spreadsheet.Proofs.Formula.WellFormed
import Spreadsheet.Proofs.Grid.Address
import Spreadsheet.Proofs.Text.UpperCase

/-! A formula is written with no more opening parentheses than the text it was read from. Each level
of the grammar is written as the operand of that level, so that a pair of parentheses is written
only where the tokens had one.
-/

namespace Spreadsheet

-- What is written without parentheses of its own

theorem Text.count_double {c quote : Char} (h : c ≠ quote) (cs : List Char)
    : (double quote cs).count c = cs.count c := by
  induction cs with
  | nil => rfl
  | cons d rest ih =>
    rw [double]
    split
    · next same => simp [ih, same, h.symm]
    · simp [List.count_cons, ih]

theorem Text.count_upper_le (name : String)
    : (upper name).toList.count '(' ≤ name.toList.count '(' := by
  rw [toList_upper]
  induction name.toList with
  | nil => exact Nat.le_refl _
  | cons c cs ih =>
    have image : (Unicode.upper c).count '(' ≤ [c].count '(' := by
      by_cases ascii : c.toNat < 0x80
      · rw [Unicode.upper, if_pos ascii]
        exact Unicode.forall_ascii (P := fun c => [c.toUpper].count '(' ≤ [c].count '(')
          (by decide) ascii
      · rw [List.count_eq_zero.mpr fun mem => ?_]
        · exact Nat.zero_le _
        · exact absurd (Unicode.isUpper_of_mem_upper ascii mem (by decide)) (by decide)
    rw [List.flatMap_cons, List.count_append, ← List.singleton_append (l := cs), List.count_append]
    exact Nat.add_le_add image ih

namespace Number

theorem not_mem_toDigits (n : Nat) : '(' ∉ Nat.toDigits 10 n := by
  intro mem
  exact absurd (Numeral.isDigit_of_mem_toDigits mem) (by decide)

theorem not_mem_writePositional (d : Decimal) : '(' ∉ (generalLayout.writePositional d).toList := by
  have digits := not_mem_toDigits d.digits
  have before (n : Nat) : '(' ∉ (Nat.toDigits 10 d.digits).take n :=
    fun mem => digits (List.mem_of_mem_take mem)
  have after (n : Nat) : '(' ∉ (Nat.toDigits 10 d.digits).drop n :=
    fun mem => digits (List.mem_of_mem_drop mem)
  unfold Layout.writePositional
  dsimp only
  split
  · simp [generalLayout, digits]
  · split
    · simp [before, after]
    · simp [digits]

theorem not_mem_writeScientific (d : Decimal) : '(' ∉ (generalLayout.writeScientific d).toList := by
  have digits := not_mem_toDigits d.digits
  have before (n : Nat) : '(' ∉ (Nat.toDigits 10 d.digits).take n :=
    fun mem => digits (List.mem_of_mem_take mem)
  have after : '(' ∉ (Nat.toDigits 10 d.digits).tail :=
    fun mem => digits (List.mem_of_mem_tail mem)
  have exponent (width n : Nat) : '(' ∉ (padded width n).toList := by
    simp [padded, digitText, not_mem_toDigits]
  unfold Layout.writeScientific
  dsimp only
  split <;> split <;> simp [generalLayout, before, after, exponent]

theorem not_mem_general (x : Float) : '(' ∉ (general x).toList := by
  unfold general
  split
  · decide
  · split
    · decide
    · unfold Layout.write
      dsimp only
      split <;> split <;> simp [not_mem_writePositional, not_mem_writeScientific]

end Number

theorem Address.count_chars (a : Address) : a.chars.count '(' = 0 :=
  List.count_eq_zero.mpr (a.not_mem_chars (by decide))

/-- The text of sheets has the parentheses of their names. -/
theorem SheetRef.count_text (r : SheetRef) : r.text.toList.count '(' = r.openings := by
  have book (n : Nat) : (Nat.toDigits 10 n).count '(' = 0 :=
    List.count_eq_zero.mpr (Number.not_mem_toDigits n)
  have name (quoted : Prop) [Decidable quoted] (cs : List Char)
      : (if quoted then Text.double '\'' cs else cs).count '(' = cs.count '(' := by
    split
    · exact Text.count_double (by decide) cs
    · rfl
  have quote (quoted : Prop) [Decidable quoted]
      : (if quoted then ['\''] else []).count '(' = 0 := by
    split <;> rfl
  obtain ⟨index, first, last⟩ := r
  unfold text SheetName.writeSpan openings
  dsimp only
  rw [String.toList_ofList]
  cases index <;> cases last <;> simp [name, quote, book]

namespace Expr

attribute [local simp] chars listChars rowsChars

theorem count_enclosed (parentheses : Bool) (cs : List Char)
    : (enclosed parentheses cs).count '(' = parentheses.toNat + cs.count '(' := by
  cases parentheses
  · simp [enclosed]
  · simp [enclosed, Nat.add_comm]

@[simp]
theorem count_binarySymbol (op : BinaryOperator) : op.symbol.toList.count '(' = 0 := by
  rcases op with op | op | _
  · cases op <;> decide
  · cases op <;> decide
  · decide

@[simp]
theorem count_unarySymbol (op : UnaryOperator) : op.symbol.toList.count '(' = 0 := by
  cases op <;> decide

@[simp]
theorem count_sheetChars (sheet : Option SheetRef)
    : (sheetChars sheet).count '(' = (sheet.map SheetRef.openings).getD 0 := by
  cases sheet with
  | none => rfl
  | some r => simp [sheetChars, SheetRef.count_text]

theorem listChars_eq (es : List Expr)
    : listChars es = [','].intercalate (es.map (chars false)) := by
  induction es with
  | nil => simp
  | cons e rest ih =>
    cases rest with
    | nil => simp
    | cons next rest =>
      have more : (next :: rest).map (chars false) ≠ [] := List.cons_ne_nil _ _
      rw [listChars, ih, List.map_cons (a := e), List.intercalate_cons_of_ne_nil more,
        List.append_assoc, List.singleton_append]

theorem rowsChars_eq (rows : List (List Expr))
    : rowsChars rows = [';'].intercalate (rows.map listChars) := by
  induction rows with
  | nil => simp
  | cons row rest ih =>
    cases rest with
    | nil => simp
    | cons next rest =>
      have more : (next :: rest).map listChars ≠ [] := List.cons_ne_nil _ _
      rw [rowsChars, ih, List.map_cons (a := row), List.intercalate_cons_of_ne_nil more,
        List.append_assoc, List.singleton_append]

/-- A separator adds no parentheses to those of the texts it stands between. -/
theorem count_intercalate {separator : Char} (other : separator ≠ '(') (texts : List (List Char))
    : ([separator].intercalate texts).count '(' = (texts.map (List.count '(')).sum := by
  induction texts with
  | nil => rfl
  | cons text rest ih =>
    cases rest with
    | nil => simp
    | cons next rest =>
      rw [List.intercalate_cons_of_ne_nil (List.cons_ne_nil next rest)]
      simp_all

theorem count_listChars (es : List Expr)
    : (listChars es).count '(' = (es.map fun e => (e.chars false).count '(').sum := by
  rw [listChars_eq, count_intercalate (by decide), List.map_map]
  rfl

theorem count_rowsChars (rows : List (List Expr))
    : (rowsChars rows).count '(' = (rows.map fun row => (listChars row).count '(').sum := by
  rw [rowsChars_eq, count_intercalate (by decide), List.map_map]
  rfl

/-- As a member of a union, only another union loses its parentheses. -/
theorem chars_member (e : Expr)
    : (∃ left right, e = union left right) ∧ e.chars false = '(' :: e.chars true ++ [')']
      ∨ e.chars false = e.chars true := by
  cases e with
  | union left right => exact .inl ⟨⟨left, right, rfl⟩, by simp [enclosed]⟩
  | unary op => exact .inr (by cases op <;> simp)
  | _ => exact .inr (by simp)

/-- The opening parentheses of a formula that is written as an operand of a level. -/
def openings (bound : Nat) (e : Expr) : Nat :=
  (enclosed (e.level < bound) (e.chars false)).count '('

variable {e : Expr} {bound : Nat}

theorem openings_mono {bound' : Nat} (h : bound ≤ bound')
    : e.openings bound ≤ e.openings bound' := by
  simp only [openings, count_enclosed]
  refine Nat.add_le_add_right (Bool.toNat_le_toNat fun below => ?_) _
  exact decide_eq_true (Nat.lt_of_lt_of_le (of_decide_eq_true below) h)

theorem count_chars_le (bound : Nat) : (e.chars false).count '(' ≤ e.openings bound := by
  rw [openings, count_enclosed]
  exact Nat.le_add_left _ _

theorem openings_of_level (h : bound ≤ e.level) : e.openings bound = (e.chars false).count '(' := by
  simp [openings, enclosed, Nat.not_lt.mpr h]

theorem openings_of_atom (h : e.level = atomLevel)
    : e.openings atomLevel = (e.chars false).count '(' :=
  openings_of_level (Nat.le_of_eq h.symm)

theorem openings_binary (op : BinaryOperator) (left right : Expr)
    : (binary op left right).openings op.level
      = left.openings op.level + right.openings (op.level + 1) := by
  have level : op.level ≤ (binary op left right).level := Nat.le_refl _
  rw [openings_of_level level, chars]
  simp [openings]

theorem openings_percent (operand : Expr)
    : (unary .percent operand).openings percentLevel = operand.openings percentLevel := by
  have level : percentLevel ≤ (unary .percent operand).level := Nat.le_refl _
  rw [openings_of_level level, chars]
  simp [openings]

/-- A unary operator other than the percent sign is written in front of its operand. -/
theorem chars_sign {op : UnaryOperator} (sign : op ≠ .percent) (member : Bool) (operand : Expr)
    : (unary op operand).chars member
      = op.symbol.toList ++ enclosed (operand.level < unaryLevel) (operand.chars false) := by
  cases op <;> simp_all

theorem openings_sign {op : UnaryOperator} (sign : op ≠ .percent) (operand : Expr)
    : (unary op operand).openings unaryLevel = operand.openings unaryLevel := by
  have level : unaryLevel ≤ (unary op operand).level := by
    cases op <;> simp [Expr.level, unaryLevel, percentLevel]
  rw [openings_of_level level, chars_sign sign]
  simp [openings]

theorem count_member_le (e : Expr) : (e.chars true).count '(' ≤ (e.chars false).count '(' := by
  rcases chars_member e with ⟨_, same⟩ | same
  · rw [same]
    simp
  · exact Nat.le_of_eq (same ▸ rfl)

/-- A pair of parentheses around a formula has one opening parenthesis. -/
theorem openings_atomLevel_le (e : Expr) : e.openings atomLevel ≤ 1 + (e.chars true).count '(' := by
  rcases chars_member e with ⟨⟨left, right, union⟩, same⟩ | same
  · have level : e.level = atomLevel := union ▸ rfl
    rw [openings_of_atom level, same]
    simp [Nat.add_comm]
  · rw [openings, count_enclosed, same]
    exact Nat.add_le_add_right (Bool.toNat_le _) _

end Expr

-- What is derived

open Spreadsheet.Expr

namespace Grammar

/-- The opening parentheses that some tokens stand for. -/
def openings (ts : List Token) : Nat :=
  (ts.map Token.openings).sum

@[simp]
theorem openings_nil : openings [] = 0 :=
  rfl

@[simp]
theorem openings_cons (token : Token) (ts : List Token)
    : openings (token :: ts) = token.openings + openings ts := by
  simp [openings]

@[simp]
theorem openings_append (ts us : List Token)
    : openings (ts ++ us) = openings ts + openings us := by
  simp [openings]

theorem openings_commaTokens (phrases : List Phrase)
    : openings (commaTokens phrases) = (phrases.map fun p => openings p.tokens).sum := by
  induction phrases with
  | nil => rfl
  | cons p rest ih =>
    cases rest with
    | nil => simp [commaTokens_singleton]
    | cons q rest => simp [commaTokens_cons p (List.cons_ne_nil q rest), ih, Token.openings]

theorem openings_rowTokens (rows : List (List Phrase))
    : openings (rowTokens rows) = (rows.map fun row => openings (commaTokens row)).sum := by
  induction rows with
  | nil => rfl
  | cons row rest ih =>
    cases rest with
    | nil => simp [rowTokens_singleton]
    | cons next rest => simp [rowTokens_cons row (List.cons_ne_nil next rest), ih, Token.openings]

/-- The level below which a formula stands for a symbol only in parentheses. -/
def Symbol.bound : Symbol → Nat
  | chain level => level
  | signed => unaryLevel
  | range | atom => atomLevel
  | argument => 0

/-- A chain has no more parentheses than its operands, by induction on its links. -/
theorem openings_linkFrom_le {level total : Nat} (links : List (BinaryOperator × Phrase))
    (levels : ∀ link ∈ links, link.1.level = level)
    (operands : ∀ link ∈ links, link.2.value.openings (level + 1) ≤ openings link.2.tokens)
    (first : Expr) (head : first.openings level ≤ total)
    : (linkFrom first links).openings level ≤ total + openings (linkTokens links) := by
  induction links generalizing first total with
  | nil => simpa [linkFrom, linkTokens] using head
  | cons link links ih =>
    obtain ⟨op, right⟩ := link
    obtain ⟨same, levels⟩ := List.forall_mem_cons.mp levels
    obtain ⟨operand, operands⟩ := List.forall_mem_cons.mp operands
    obtain rfl : op.level = level := same
    have joined : (binary op first right.value).openings op.level
        ≤ total + openings right.tokens := by
      rw [openings_binary]
      exact Nat.add_le_add head operand
    have more := ih levels operands _ joined
    rw [linkTokens_cons, openings_cons, openings_append]
    simp only [linkFrom, List.foldl_cons] at more ⊢
    omega

/-- A union has no more parentheses inside its own than its members, by induction on them. -/
theorem count_uniteFrom_le {total : Nat} (members : List Phrase)
    (each : ∀ member ∈ members, (member.value.chars true).count '(' ≤ openings member.tokens)
    (first : Expr) (head : (first.chars true).count '(' ≤ total)
    : ((uniteFrom first members).chars true).count '('
      ≤ total + openings (memberTokens members) := by
  induction members generalizing first total with
  | nil => simpa [uniteFrom, memberTokens] using head
  | cons member members ih =>
    obtain ⟨one, each⟩ := List.forall_mem_cons.mp each
    have united : ((Expr.union first member.value).chars true).count '('
        ≤ total + openings member.tokens := by
      simpa [chars, enclosed] using Nat.add_le_add head one
    have more := ih each _ united
    rw [memberTokens_cons, openings_cons, openings_append]
    simp only [uniteFrom, List.foldl_cons] at more ⊢
    omega

theorem openings_percents_le {e : Expr} (count : Nat)
    : ((Expr.unary .percent)^[count] e).openings percentLevel ≤ e.openings atomLevel := by
  induction count with
  | zero => exact openings_mono (by decide)
  | succ count ih => rwa [Function.iterate_succ_apply', openings_percent]

/-- Without the parentheses of a text, a literal has none. -/
theorem openings_literal {token : Token} {e : Expr} (same : token.literal? = some e)
    : e.openings atomLevel = token.openings := by
  unfold Token.literal? at same
  split at same
  · next x =>
    cases same
    rw [openings_of_atom rfl, chars, List.count_eq_zero.mpr (Number.not_mem_general x)]
    rfl
  · next value =>
    cases same
    rw [openings_of_atom rfl, chars]
    simp [Text.enclose, Text.count_double, Token.openings]
  · next value =>
    cases same
    rw [openings_of_atom rfl, chars]
    cases value <;> decide
  · next e =>
    cases same
    rw [openings_of_atom rfl, chars]
    cases e <;> decide
  · cases same

theorem openings_cell {sheet : Option SheetRef} {a : Address}
    : (cell sheet a).openings atomLevel = (sheet.map SheetRef.openings).getD 0 := by
  rw [openings_of_atom rfl, chars, List.count_append, a.count_chars, count_sheetChars, Nat.add_zero]

theorem openings_range {sheet : Option SheetRef} {r : Range}
    : (Expr.range sheet r).openings atomLevel = (sheet.map SheetRef.openings).getD 0 := by
  rw [openings_of_atom rfl, chars, List.count_append, count_sheetChars]
  simp [Range.cornerText, Address.text, Address.count_chars]

theorem openings_sheetTokens (sheet : Option SheetRef)
    : openings (sheetTokens sheet) = (sheet.map SheetRef.openings).getD 0 := by
  cases sheet <;> simp [sheetTokens, Token.openings]

/-- What tokens derive is written with no more parentheses than they stand for, by induction on the
derivation.
-/
theorem openings_le_of_derives {symbol : Symbol} {ts : List Token} {e : Expr}
    (h : Derives symbol ts e)
    : e.openings symbol.bound ≤ openings ts := by
  induction h with
  | chain links below head levels operands ihHead ihOperands =>
    rw [openings_append]
    exact openings_linkFrom_le links levels ihOperands _
      ((openings_mono (Nat.le_succ _)).trans ihHead)
  | operand operand ih => exact ih
  | negated operand ih =>
    rw [Symbol.bound, openings_sign (by decide)]
    exact ih.trans (by simp)
  | plus operand ih =>
    rw [Symbol.bound, openings_sign (by decide)]
    exact ih.trans (by simp)
  | percents count operand ih =>
    rw [openings_append]
    exact (openings_mono (by decide)).trans
      ((openings_percents_le count).trans (ih.trans (Nat.le_add_right _ _)))
  | single atom ih => exact ih
  | corners left right same ihLeft ihRight =>
    rw [Symbol.bound, openings_cell] at ihLeft
    rw [Symbol.bound, openings_range, openings_append]
    exact ihLeft.trans (Nat.le_add_right _ _)
  | literal same =>
    rw [Symbol.bound, openings_literal same]
    simp
  | cell sheet read inGrid =>
    rw [Symbol.bound, openings_cell, openings_append, openings_sheetTokens]
    exact Nat.le_add_right _ _
  | name name =>
    rw [Symbol.bound, openings_of_atom rfl, chars]
    simp [Token.openings]
  | emptyCall name =>
    have upper := Text.count_upper_le name
    rw [Symbol.bound, openings_of_atom rfl, chars]
    simp [Token.openings, listChars]
    omega
  | call name arguments written each ih =>
    have upper := Text.count_upper_le name
    have inside : (listChars (arguments.map Phrase.value)).count '('
        ≤ openings (commaTokens arguments) := by
      rw [count_listChars, openings_commaTokens, List.map_map]
      exact List.sum_le_sum fun argument mem => (count_chars_le _).trans (ih argument mem)
    rw [Symbol.bound, openings_of_atom rfl, chars]
    simp [Token.openings]
    omega
  | parentheses members head each ihHead ihEach =>
    have member {e : Expr} {ts : List Token} (h : e.openings (Symbol.bound .formula) ≤ openings ts)
        : (e.chars true).count '(' ≤ openings ts :=
      (count_member_le e).trans ((count_chars_le _).trans h)
    have inside := count_uniteFrom_le members (fun p mem => member (ihEach p mem)) _ (member ihHead)
    refine (openings_atomLevel_le _).trans ?_
    simp [Token.openings]
    omega
  | array rows nonempty wide rectangular each ih =>
    have row (phrases : List Phrase) (mem : phrases ∈ rows)
        : (listChars (phrases.map Phrase.value)).count '(' ≤ openings (commaTokens phrases) := by
      rw [count_listChars, openings_commaTokens, List.map_map]
      exact List.sum_le_sum fun element inRow =>
        (count_chars_le _).trans (ih phrases mem element inRow)
    have inside : (rowsChars (rows.map (·.map Phrase.value))).count '('
        ≤ openings (rowTokens rows) := by
      rw [count_rowsChars, openings_rowTokens, List.map_map]
      exact List.sum_le_sum row
    rw [Symbol.bound, openings_of_atom rfl, chars]
    simp [Token.openings]
    omega
  | given formula ih => exact (openings_mono (Nat.zero_le _)).trans ih
  | leftOut =>
    rw [Symbol.bound, openings_of_level (Nat.zero_le _), chars]
    exact Nat.zero_le _

end Grammar

theorem Unicode.trim_sublist (cs : List Char) : (trim cs).Sublist cs := by
  have dropped : (trim cs).Sublist (cs.dropWhile isWhiteSpace).reverse.reverse :=
    (List.dropWhile_sublist _).reverse
  rw [List.reverse_reverse] at dropped
  exact dropped.trans (List.dropWhile_sublist _)

/-- Read from a text, a formula is written with no more opening parentheses than the text had. -/
theorem Expr.count_chars_le_of_parse {text : String} {e : Expr} (parsed : parse text = .ok e)
    : (e.chars false).count '(' ≤ text.toList.count '(' := by
  obtain ⟨cs, trimmed, derived⟩ := exists_of_parse parsed
  have whole : (Unicode.trim text.toList).count '(' ≤ text.toList.count '(' :=
    (Unicode.trim_sublist _).count_le '('
  calc (e.chars false).count '('
      ≤ e.openings (Grammar.Symbol.bound .formula) := count_chars_le _
    _ ≤ Grammar.openings (Token.scanAll cs) := Grammar.openings_le_of_derives derived
    _ ≤ cs.count '(' := Token.sum_openings_scanAll_le cs
    _ ≤ ('=' :: cs).count '(' := List.count_le_count_cons
    _ ≤ text.toList.count '(' := trimmed ▸ whole

end Spreadsheet
