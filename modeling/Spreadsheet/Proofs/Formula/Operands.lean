import Spreadsheet.Proofs.Formula.Completeness
import Spreadsheet.Proofs.Formula.Spelling

/-! Operands, the places that they can stand in, and what their text needs around it. Parentheses
let any formula stand anywhere; without them it has to bind as tightly as its place asks for.
-/

namespace Spreadsheet

open Grammar Token

-- How tightly tokens bind

theorem BinaryOperator.level_bounds (op : BinaryOperator)
    : 1 ≤ op.level ∧ op.level < Expr.unaryLevel := by
  cases op with
  | arithmetic op => cases op <;> simp [level, Expr.unaryLevel]
  | _ => simp [level, Expr.unaryLevel]

/-- Tokens stand for a formula as an operand in a place that asks for a level. -/
def Binds (level : Nat) (ts : List Token) (e : Expr) : Prop :=
  if level ≤ Expr.unaryLevel then Derives (.chain level) ts e
  else if level = Expr.percentLevel then
    ∃ count us x, Derives .range us x ∧ ts = us ++ List.replicate count Token.percent
      ∧ e = (Expr.unary .percent)^[count] x
  else Derives .range ts e

namespace Binds

variable {level low : Nat} {ts us : List Token} {e e' : Expr}

theorem of_atom (h : Derives .atom ts e) : Binds Expr.atomLevel ts e :=
  .single h

theorem of_range (h : Derives .range ts e) : Binds Expr.atomLevel ts e :=
  h

theorem of_signed (h : Derives .signed ts e) : Binds Expr.unaryLevel ts e :=
  .operand h

/-- What can stand in a place can stand in one that asks for less. -/
theorem step (h : Binds (level + 1) ts e) : Binds level ts e := by
  unfold Binds at h ⊢
  by_cases operator : level + 1 ≤ Expr.unaryLevel
  · rw [if_pos operator] at h
    rw [if_pos (Nat.le_of_succ_le operator)]
    have chain : Derives (.chain level) (ts ++ linkTokens []) (linkFrom e []) :=
      .chain [] operator h (by simp) (by simp)
    simpa [linkTokens, linkFrom] using chain
  · rw [if_neg operator] at h
    by_cases percent : level + 1 = Expr.percentLevel
    · rw [if_pos percent] at h
      obtain rfl : level = Expr.unaryLevel := Nat.succ.inj percent
      obtain ⟨count, us, x, range, rfl, rfl⟩ := h
      exact .operand (.percents count range)
    · rw [if_neg percent] at h
      by_cases same : level = Expr.percentLevel
      · subst same
        exact ⟨0, ts, e, h, by simp, rfl⟩
      · rw [if_neg fun le => operator ?_, if_neg same]
        · exact h
        · simp only [Expr.unaryLevel, Expr.percentLevel] at *
          omega

theorem of_le (h : Binds level ts e) (le : low ≤ level) : Binds low ts e := by
  induction le with
  | refl => exact h
  | step _ ih => exact ih h.step

theorem formula (h : Binds level ts e) (le : 1 ≤ level) : Derives .formula ts e :=
  h.of_le le

theorem signed (h : Binds Expr.unaryLevel ts e) : Derives .signed ts e := by
  cases (show Derives (.chain Expr.unaryLevel) ts e from h) with
  | chain links below => exact absurd below (Nat.lt_irrefl _)
  | operand operand => exact operand

theorem percent (h : Binds Expr.percentLevel ts e)
    : Binds Expr.percentLevel (ts ++ [Token.percent]) (.unary .percent e) := by
  obtain ⟨count, us, x, range, rfl, rfl⟩ := h
  refine ⟨count + 1, us, x, range, ?_, ?_⟩
  · rw [List.append_assoc, List.replicate_succ']
  · rw [Function.iterate_succ_apply']

/-- A chain goes on with one more operator of its level. -/
theorem chain_snoc (op : BinaryOperator) (same : op.level = level) (below : level < Expr.unaryLevel)
    (h : Derives (.chain level) ts e) (h' : Derives (.chain (level + 1)) us e')
    : Derives (.chain level) (ts ++ op.token :: us) (.binary op e e') := by
  cases h with
  | @chain _ ts first links _ head levels operands =>
    have chain : Derives (.chain level) (ts ++ linkTokens (links ++ [(op, ⟨us, e'⟩)]))
        (linkFrom first (links ++ [(op, ⟨us, e'⟩)])) := by
      refine .chain _ below head ?_ ?_
      · intro link mem
        rcases List.mem_append.mp mem with mem | mem
        · exact levels link mem
        · obtain rfl := List.mem_singleton.mp mem
          exact same
      · intro link mem
        rcases List.mem_append.mp mem with mem | mem
        · exact operands link mem
        · obtain rfl := List.mem_singleton.mp mem
          exact h'
    simpa [linkTokens, linkFrom] using chain
  | operand => exact absurd below (Nat.lt_irrefl _)

/-- An operator joins an operand of its own level with one of the next level. -/
theorem binary (op : BinaryOperator) (h : Binds op.level ts e) (h' : Binds (op.level + 1) us e')
    : Binds op.level (ts ++ op.token :: us) (.binary op e e') := by
  have below : op.level < Expr.unaryLevel := op.level_bounds.2
  rw [Binds, if_pos (show op.level + 1 ≤ Expr.unaryLevel from below)] at h'
  rw [Binds, if_pos (Nat.le_of_lt below)] at h ⊢
  exact chain_snoc op rfl below h h'

theorem parentheses (h : Derives .formula ts e)
    : Binds Expr.atomLevel (.leftParen :: ts ++ [Token.rightParen]) e := by
  have atom : Derives .atom (.leftParen :: ts ++ memberTokens [] ++ [Token.rightParen])
      (uniteFrom e []) :=
    .parentheses [] h (by simp)
  rw [memberTokens, List.flatMap_nil, List.append_nil] at atom
  exact of_atom atom

end Binds

-- Pieces in parentheses and behind operators

namespace Token

variable {cs ds : List Char} {ts us : List Token}

theorem Spells.parentheses (h : Spells cs ts)
    : Spells ('(' :: cs ++ [')']) (.leftParen :: ts ++ [Token.rightParen]) := by
  have closed : Spells (cs ++ [')']) (ts ++ [Token.rightParen]) :=
    h.append (spells_punctuation (by decide) rfl) (delimited_cons (by decide) (by decide)) (by simp)
  exact closed.cons (by decide) rfl

/-- Pieces with a separator between them. -/
theorem Spells.separated (separator : Char) {token : Token} (h : Spells cs ts) (h' : Spells ds us)
    (isToken : punctuation? separator = some token)
    (delimiter : separator ∈ delimiters ∧ separator ≠ '/'
      ∧ Unicode.isWhiteSpace separator = false)
    : Spells (cs ++ separator :: ds) (ts ++ token :: us) :=
  h.append (h'.cons delimiter.2.2 isToken) (delimited_cons delimiter.1 delimiter.2.1) (by simp)

/-- What starts like a formula does not start with a sign that goes on with an operator. -/
theorem Spells.head_ne (h : Spells cs ts) {symbol : Symbol} {e : Expr}
    (derived : Derives symbol ts e) (present : symbol ≠ .argument)
    : cs ≠ [] ∧ cs.head? ≠ some '=' ∧ cs.head? ≠ some '>' := by
  have scanned := h.scanAll_eq
  obtain ⟨token, us, rfl, starts⟩ := derived.head present
  have startsFormula : token.startsFormula := by
    cases symbol with
    | argument => cases starts
    | range => exact Bool.or_eq_true_iff.mpr (.inl starts)
    | atom => exact Bool.or_eq_true_iff.mpr (.inl starts)
    | _ => exact starts
  cases cs with
  | nil => rw [scanAll_eq_nil rfl] at scanned; cases scanned
  | cons c cs =>
    refine ⟨by simp, ?_, ?_⟩
    · intro same
      obtain rfl : c = '=' := by simpa using same
      rw [scanAll_cons (by decide) rfl] at scanned
      cases scanned
      cases startsFormula
    · intro same
      obtain rfl : c = '>' := by simpa using same
      have sign : (scanAt '>' cs).1 = .greater ∨ (scanAt '>' cs).1 = .greaterEqual := by
        cases cs with
        | nil => exact .inl rfl
        | cons d cs =>
          by_cases equal : d = '='
          · subst equal
            exact .inr rfl
          · simp [scanAt, punctuation?, equal]
      cases found : scanAt '>' cs with
      | mk first more =>
        rw [scanAll_cons (by decide) found] at scanned
        obtain rfl : first = token := (List.cons.inj scanned).1
        rw [found] at sign
        rcases sign with rfl | rfl <;> cases startsFormula

end Token

/-- The symbol of an operator keeps its left operand apart; a slash does not do so behind the
literal of an error.
-/
theorem BinaryOperator.delimited_symbol (op : BinaryOperator) {cs rest : List Char}
    (h : op = .arithmetic .divide → ¬EndsInError cs)
    : Delimited cs (op.symbol.toList ++ rest) := by
  cases op with
  | arithmetic op =>
    cases op with
    | divide =>
      intro c next
      cases next
      exact ⟨by decide, fun _ => h rfl⟩
    | _ => exact delimited_cons (by decide) (by decide)
  | comparison op => cases op <;> exact delimited_cons (by decide) (by decide)
  | concat => exact delimited_cons (by decide) (by decide)

end Spreadsheet
