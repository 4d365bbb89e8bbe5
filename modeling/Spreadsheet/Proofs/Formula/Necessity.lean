import Spreadsheet.Proofs.Formula.Parentheses

/-! The parentheses around operands are needed. A text without one pair of them has an opening
parenthesis less than the formula it was taken from, and whatever is read from it is written with no
more than it has.
-/

namespace Spreadsheet.Expr

/-- An operand is written in parentheses, be they those of its level or, of a union, its own. -/
def InParentheses (bound : Nat) (operand : Expr) : Prop :=
  enclosed (operand.level < bound) (operand.chars false) = '(' :: operand.chars true ++ [')']

/-- The text of a formula with just the parentheses around one operand in it left out. -/
inductive Unwrapped : Bool → Expr → List Char → Prop
  | left {member op left right} (written : left.InParentheses op.level)
    : Unwrapped member (binary op left right)
        (left.chars true ++ op.symbol.toList
          ++ enclosed (right.level ≤ op.level) (right.chars false))
  | right {member op left right} (written : right.InParentheses (op.level + 1))
    : Unwrapped member (binary op left right)
        (enclosed (left.level < op.level) (left.chars false) ++ op.symbol.toList
          ++ right.chars true)
  | percent {member operand} (written : operand.InParentheses percentLevel)
    : Unwrapped member (unary .percent operand) (operand.chars true ++ ['%'])
  | sign {member op operand} (sign : op ≠ .percent) (written : operand.InParentheses unaryLevel)
    : Unwrapped member (unary op operand) (op.symbol.toList ++ operand.chars true)
  | inLeft {member op left right cs} (inside : Unwrapped false left cs)
    : Unwrapped member (binary op left right)
        (enclosed (left.level < op.level) cs ++ op.symbol.toList
          ++ enclosed (right.level ≤ op.level) (right.chars false))
  | inRight {member op left right cs} (inside : Unwrapped false right cs)
    : Unwrapped member (binary op left right)
        (enclosed (left.level < op.level) (left.chars false) ++ op.symbol.toList
          ++ enclosed (right.level ≤ op.level) cs)
  | inPercent {member operand cs} (inside : Unwrapped false operand cs)
    : Unwrapped member (unary .percent operand)
        (enclosed (operand.level < percentLevel) cs ++ ['%'])
  | inSign {member op operand cs} (sign : op ≠ .percent) (inside : Unwrapped false operand cs)
    : Unwrapped member (unary op operand)
        (op.symbol.toList ++ enclosed (operand.level < unaryLevel) cs)
  | inFirstMember {member left right cs} (inside : Unwrapped true left cs)
    : Unwrapped member (union left right) (enclosed (!member) (cs ++ ',' :: right.chars true))
  | inLastMember {member left right cs} (inside : Unwrapped true right cs)
    : Unwrapped member (union left right) (enclosed (!member) (left.chars true ++ ',' :: cs))
  | inArgument {member f e cs} (before after : List Expr) (inside : Unwrapped false e cs)
    : Unwrapped member (call f (before ++ e :: after))
        (f.toList ++ '(' ::
          [','].intercalate (before.map (chars false) ++ cs :: after.map (chars false)) ++ [')'])
  | inElement {member e cs} (above below : List (List Expr)) (before after : List Expr)
    (inside : Unwrapped false e cs)
    : Unwrapped member (array (above ++ (before ++ e :: after) :: below))
        ('\x7b' ::
          [';'].intercalate (above.map listChars
            ++ [','].intercalate (before.map (chars false) ++ cs :: after.map (chars false))
              :: below.map listChars) ++ ['\x7d'])

/-- A text, and the same text without one pair of its parentheses. -/
inductive DropsPair : List Char → List Char → Prop
  | pair (before inner after : List Char)
    : DropsPair (before ++ '(' :: inner ++ ')' :: after) (before ++ inner ++ after)

namespace DropsPair

variable {whole cs : List Char}

/-- One opening parenthesis is left out. -/
theorem count (h : DropsPair whole cs) : whole.count '(' = cs.count '(' + 1 := by
  obtain ⟨before, inner, after⟩ := h
  simp
  omega

/-- A pair stays a pair with other text around it. -/
theorem around (before after : List Char) (h : DropsPair whole cs)
    : DropsPair (before ++ whole ++ after) (before ++ cs ++ after) := by
  obtain ⟨front, inner, back⟩ := h
  simpa using pair (before ++ front) inner (back ++ after)

theorem behind (before : List Char) (h : DropsPair whole cs)
    : DropsPair (before ++ whole) (before ++ cs) := by
  simpa using h.around before []

theorem inFrontOf (after : List Char) (h : DropsPair whole cs)
    : DropsPair (whole ++ after) (cs ++ after) :=
  h.around [] after

theorem enclosed (parentheses : Bool) (h : DropsPair whole cs)
    : DropsPair (Expr.enclosed parentheses whole) (Expr.enclosed parentheses cs) := by
  cases parentheses
  · exact h
  · exact h.around ['('] [')']

/-- A pair in one of some texts is a pair in what they make up, by induction on those before. -/
theorem inIntercalate (separator : List Char) (before after : List (List Char))
    (h : DropsPair whole cs)
    : DropsPair (separator.intercalate (before ++ whole :: after))
        (separator.intercalate (before ++ cs :: after)) := by
  induction before with
  | nil =>
    cases after with
    | nil => simpa using h
    | cons next rest =>
      rw [List.nil_append, List.nil_append,
        List.intercalate_cons_of_ne_nil (List.cons_ne_nil next rest),
        List.intercalate_cons_of_ne_nil (List.cons_ne_nil next rest), List.append_assoc,
        List.append_assoc]
      exact h.inFrontOf _
  | cons first rest ih =>
    rw [List.cons_append, List.cons_append, List.intercalate_cons_of_ne_nil (by simp),
      List.intercalate_cons_of_ne_nil (by simp)]
    exact ih.behind _

end DropsPair

theorem InParentheses.dropsPair {bound : Nat} {operand : Expr} (h : operand.InParentheses bound)
    : DropsPair (enclosed (operand.level < bound) (operand.chars false)) (operand.chars true) := by
  rw [h]
  simpa using DropsPair.pair [] (operand.chars true) []

/-- Just one pair of parentheses is left out, by induction on where it stood. -/
theorem Unwrapped.dropsPair {member : Bool} {e : Expr} {cs : List Char} (h : Unwrapped member e cs)
    : DropsPair (e.chars member) cs := by
  induction h with
  | left written =>
    rw [chars]
    exact (written.dropsPair.inFrontOf _).inFrontOf _
  | right written =>
    have operand := written.dropsPair
    simp only [Nat.lt_succ_iff] at operand
    rw [chars]
    exact operand.behind _
  | percent written =>
    rw [chars]
    exact written.dropsPair.inFrontOf _
  | sign sign written =>
    rw [chars_sign sign]
    exact written.dropsPair.behind _
  | inLeft inside ih =>
    rw [chars]
    exact ((ih.enclosed _).inFrontOf _).inFrontOf _
  | inRight inside ih =>
    rw [chars]
    exact (ih.enclosed _).behind _
  | inPercent inside ih =>
    rw [chars]
    exact (ih.enclosed _).inFrontOf _
  | inSign sign inside ih =>
    rw [chars_sign sign]
    exact (ih.enclosed _).behind _
  | inFirstMember inside ih =>
    rw [chars]
    exact (ih.inFrontOf _).enclosed _
  | @inLastMember _ _ right cs inside ih =>
    have last : DropsPair (',' :: right.chars true) (',' :: cs) := ih.behind [',']
    rw [chars]
    exact (last.behind _).enclosed _
  | @inArgument _ f e cs before after inside ih =>
    have list := ih.inIntercalate [','] (before.map (chars false)) (after.map (chars false))
    rw [chars, listChars_eq, List.map_append, List.map_cons]
    simpa using list.around (f.toList ++ ['(']) [')']
  | @inElement _ e cs above below before after inside ih =>
    have row := ih.inIntercalate [','] (before.map (chars false)) (after.map (chars false))
    have rows := row.inIntercalate [';'] (above.map listChars) (below.map listChars)
    rw [chars, rowsChars_eq, List.map_append, List.map_cons, listChars_eq, List.map_append,
      List.map_cons]
    simpa using rows.around ['\x7b'] ['\x7d']

/-- The text of a formula without the parentheses around one operand is not read back as this
formula.
-/
theorem parse_ne_of_unwrapped {e : Expr} {cs : List Char} (h : Unwrapped false e cs)
    : DropsPair e.render.toList cs ∧ parse (String.ofList ('=' :: cs)) ≠ .ok e := by
  have pair : DropsPair (e.chars false) cs := h.dropsPair
  refine ⟨by rwa [render, String.toList_ofList], fun parsed => ?_⟩
  have fewer := count_chars_le_of_parse parsed
  rw [pair.count, String.toList_ofList, List.count_cons_of_ne (by decide)] at fewer
  exact absurd fewer (Nat.not_succ_le_self _)

/-- A sum in parentheses is one factor. -/
theorem parse_ne_of_unwrapped_sum
    : let e : Expr := .binary (.arithmetic .multiply)
        (.binary (.arithmetic .add) (.name "a") (.name "b")) (.name "c")
      parse "=(a+b)*c" = .ok e
        ∧ Unwrapped false e "a+b*c".toList
        ∧ DropsPair e.render.toList "a+b*c".toList
        ∧ parse (String.ofList ('=' :: "a+b*c".toList)) ≠ .ok e := by
  intro e
  have parsed : parse "=(a+b)*c" = .ok e := by with_unfolding_all rfl
  have unwrapped : Unwrapped false e "a+b*c".toList := .left rfl
  exact ⟨parsed, unwrapped, parse_ne_of_unwrapped unwrapped⟩

end Spreadsheet.Expr
