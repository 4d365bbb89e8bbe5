import Spreadsheet.Proofs.Formula.Soundness
import Spreadsheet.Proofs.Unicode.WhiteSpace

/-! Whatever the grammar derives, the parser reads, provided that nothing follows which takes hold
of the last operand. Together with soundness, the parser reads the grammar and nothing else.
-/

namespace Spreadsheet

/-- How tightly a token takes hold of the operand in front of it: as tightly as an operator
binds, or more so if it is a percent sign, a colon, or the parenthesis of a call.
-/
def Token.grip : Token → Nat
  | .equal | .notEqual | .less | .lessEqual | .greater | .greaterEqual => 1
  | .ampersand => 2
  | .plus | .minus => 3
  | .star | .slash => 4
  | .caret => 5
  | .percent => 6
  | .colon => 7
  | .leftParen => 8
  | _ => 0

/-- The tokens that an atom can start with. -/
def Token.startsAtom : Token → Bool
  | .number _ | .text _ | .boolean _ | .error _ | .identifier _ | .cell _ | .sheet _ => true
  | .leftParen | .leftBrace => true
  | _ => false

/-- The tokens that a formula can start with. -/
def Token.startsFormula (token : Token) : Bool :=
  token.startsAtom || token matches .minus | .plus

-- What can stand at the start of a formula and behind it

theorem Token.grip_operator (op : BinaryOperator) : op.token.grip = op.level := by
  rcases op with op | op | _
  · cases op <;> rfl
  · cases op <;> rfl
  · rfl

theorem Token.startsAtom_of_literal? {token : Token} {value : Expr}
    (h : token.literal? = some value)
    : token.startsAtom := by
  cases token <;> first | rfl | cases h

namespace Grammar

variable {ts rest : List Token} {e e' : Expr} {symbol : Symbol}

/-- What a symbol of the grammar can start with. -/
def Symbol.starts : Symbol → Token → Bool
  | chain _, token | signed, token => token.startsFormula
  | range, token | atom, token => token.startsAtom
  | argument, _ => false

/-- Nothing takes hold of an operand from behind as tightly as its own operators do. -/
def Stops (rank : Nat) (rest : List Token) : Prop :=
  ∀ token ∈ rest.head?, token.grip < rank

theorem stops_cons {rank : Nat} {token : Token} (h : token.grip < rank)
    : Stops rank (token :: rest) := by
  intro token' found
  cases found
  exact h

theorem Stops.succ {rank : Nat} (h : Stops rank rest) : Stops (rank + 1) rest :=
  fun token found => Nat.lt_succ_of_lt (h token found)

/-- The operators of a level take hold of no operand of the next level. -/
theorem Stops.linkTokens {level : Nat} {links : List (BinaryOperator × Phrase)}
    (h : Stops level rest) (levels : ∀ link ∈ links, link.1.level = level)
    : Stops (level + 1) (Grammar.linkTokens links ++ rest) := by
  cases links with
  | nil => exact h.succ
  | cons link links =>
    refine stops_cons ?_
    rw [Token.grip_operator, levels link List.mem_cons_self]
    exact Nat.lt_succ_self _

theorem stops_memberTokens (members : List Phrase)
    : Stops 1 (memberTokens members ++ .rightParen :: rest) := by
  cases members with
  | nil => exact stops_cons (by decide)
  | cons member members => exact stops_cons (by decide)

/-- Only an argument can be written with no token. -/
theorem Derives.head (h : Derives symbol ts e) (present : symbol ≠ .argument)
    : ∃ token us, ts = token :: us ∧ symbol.starts token := by
  induction h with
  | chain links below head levels operands ih =>
    obtain ⟨token, us, rfl, starts⟩ := ih (by simp)
    exact ⟨token, _, rfl, starts⟩
  | operand operand ih => exact ih (by simp)
  | negated operand ih => exact ⟨_, _, rfl, rfl⟩
  | plus operand ih => exact ⟨_, _, rfl, rfl⟩
  | percents count operand ih =>
    obtain ⟨token, us, rfl, starts⟩ := ih (by simp)
    exact ⟨token, _, rfl, Bool.or_eq_true_iff.mpr (.inl starts)⟩
  | single atom ih => exact ih (by simp)
  | corners left right same ih =>
    obtain ⟨token, us, rfl, starts⟩ := ih (by simp)
    exact ⟨token, _, rfl, starts⟩
  | literal same => exact ⟨_, _, rfl, Token.startsAtom_of_literal? same⟩
  | cell sheet read inGrid =>
    cases sheet with
    | none => exact ⟨_, _, rfl, rfl⟩
    | some sheet => exact ⟨_, _, rfl, rfl⟩
  | name name => exact ⟨_, _, rfl, rfl⟩
  | emptyCall name => exact ⟨_, _, rfl, rfl⟩
  | call name arguments written each => exact ⟨_, _, rfl, rfl⟩
  | parentheses members head each => exact ⟨_, _, rfl, rfl⟩
  | array rows nonempty wide rectangular each => exact ⟨_, _, rfl, rfl⟩
  | given formula => exact absurd rfl present
  | leftOut => exact absurd rfl present

end Grammar

namespace Parse

open Grammar

variable {ts rest : List Token} {e : Expr}

/-- The reader of a symbol takes the tokens that stand for a formula and leaves what follows,
unless that takes hold of them. An argument that is left out has no reader of its own.
-/
def Completes : Symbol → List Token → Expr → Prop
  | .chain level, ts, e =>
    ∀ rest, Stops level rest → Reads (binary level (ts ++ rest)) e rest
  | .signed, ts, e => ∀ rest, Stops Expr.unaryLevel rest → Reads (unary (ts ++ rest)) e rest
  | .range, ts, e => ∀ rest, Stops Expr.percentLevel rest → Reads (reference (ts ++ rest)) e rest
  | .atom, ts, e => ∀ rest, Stops Expr.atomLevel rest → Reads (atom (ts ++ rest)) e rest
  | .argument, ts, e =>
    (Derives .formula ts e ∧ ∀ rest, Stops 1 rest → Reads (binary 1 (ts ++ rest)) e rest)
    ∨ (ts = [] ∧ e = .missing)

-- Runs of operands, members, elements and arguments

theorem operatorAt?_of_stops {level : Nat} {token : Token} (h : Stops level (token :: rest))
    : operatorAt? level token = none := by
  by_contra isOperator
  obtain ⟨op, isOperator⟩ := Option.ne_none_iff_exists'.mp isOperator
  obtain ⟨rfl, rfl⟩ := operatorAt?_eq_some.mp isOperator
  have := h op.token rfl
  rw [Token.grip_operator] at this
  exact Nat.lt_irrefl _ this

theorem percents_replicate (e : Expr) (count : Nat) (h : Stops Expr.unaryLevel rest)
    : (percents e (List.replicate count Token.percent ++ rest)).value
        = (Expr.unary .percent)^[count] e
      ∧ (percents e (List.replicate count Token.percent ++ rest)).rest = rest := by
  induction count generalizing e with
  | zero =>
    rw [List.replicate_zero, List.nil_append, percents]
    · exact ⟨rfl, rfl⟩
    · intro ts same
      subst same
      exact absurd (h .percent rfl) (by decide)
  | succ count ih =>
    rw [List.replicate_succ, List.cons_append, percents]
    exact ih (.unary .percent e)

/-- A chain is read link by link, by induction on its links. -/
theorem reads_binaryRest_chain {level : Nat} {first : Expr}
    (links : List (BinaryOperator × Phrase)) (levels : ∀ link ∈ links, link.1.level = level)
    (operands : ∀ link ∈ links, Completes (.chain (level + 1)) link.2.tokens link.2.value)
    (stops : Stops level rest)
    : Reads (binaryRest level first (linkTokens links ++ rest)) (linkFrom first links) rest := by
  induction links generalizing first with
  | nil =>
    cases rest with
    | nil => exact reads_binaryRest_nil.mpr ⟨rfl, rfl⟩
    | cons token rest =>
      exact (reads_binaryRest_stop (operatorAt?_of_stops stops)).mpr ⟨rfl, rfl⟩
  | cons link links ih =>
    obtain ⟨op, p⟩ := link
    simp only [List.mem_cons, forall_eq_or_imp] at levels operands
    rw [linkTokens_cons, List.cons_append, List.append_assoc]
    refine (reads_binaryRest_link (operatorAt?_eq_some.mpr ⟨rfl, levels.1⟩)).mpr ?_
    exact ⟨p.value, linkTokens links ++ rest, operands.1 _ (stops.linkTokens levels.2),
      ih levels.2 operands.2⟩

/-- The members of a union are read one by one, by induction on the members. -/
theorem reads_members_union {first : Expr} (phrases : List Phrase)
    (each : ∀ member ∈ phrases, Completes .formula member.tokens member.value)
    : Reads (members first (memberTokens phrases ++ .rightParen :: rest))
        (uniteFrom first phrases) rest := by
  induction phrases generalizing first with
  | nil => exact reads_members_close.mpr ⟨rfl, rfl⟩
  | cons p phrases ih =>
    simp only [List.mem_cons, forall_eq_or_imp] at each
    rw [memberTokens_cons, List.cons_append, List.append_assoc]
    exact reads_members_comma.mpr ⟨p.value, _, each.1 _ (stops_memberTokens phrases), ih each.2⟩

/-- A row of an array is read up to what follows it, by induction on its elements. -/
theorem reads_elements_row {more : List (List Expr)} (row : List Phrase) (wide : row ≠ [])
    (each : ∀ element ∈ row, Completes .formula element.tokens element.value)
    (us : List Token)
    (ends : us = .rightBrace :: rest ∧ more = []
      ∨ ∃ vs, us = .semicolon :: vs ∧ Reads (elements vs) more rest)
    : Reads (elements (commaTokens row ++ us)) (row.map Phrase.value :: more) rest := by
  induction row with
  | nil => exact absurd rfl wide
  | cons p row ih =>
    simp only [List.mem_cons, forall_eq_or_imp] at each
    by_cases last : row = []
    · subst last
      rw [commaTokens_singleton]
      refine reads_elements.mpr ⟨p.value, us, each.1 _ ?_, ?_⟩
      · rcases ends with ⟨rfl, rfl⟩ | ⟨vs, rfl, read⟩
        · exact stops_cons (by decide)
        · exact stops_cons (by decide)
      · rcases ends with ⟨rfl, rfl⟩ | ⟨vs, rfl, read⟩
        · exact .inr (.inr ⟨rfl, rfl⟩)
        · exact .inr (.inl ⟨vs, more, rfl, read, rfl⟩)
    · rw [commaTokens_cons p last, List.append_assoc, List.cons_append]
      exact reads_elements.mpr
        ⟨p.value, _, each.1 _ (stops_cons (by decide)), .inl ⟨_, _, rfl, ih last each.2, rfl⟩⟩

/-- An array is read row by row, by induction on its rows. -/
theorem reads_elements_rows (rows : List (List Phrase)) (nonempty : rows ≠ [])
    (wide : ∀ row ∈ rows, row ≠ [])
    (each : ∀ row ∈ rows, ∀ element ∈ row, Completes .formula element.tokens element.value)
    : Reads (elements (rowTokens rows ++ .rightBrace :: rest))
        (rows.map (·.map Phrase.value)) rest := by
  induction rows with
  | nil => exact absurd rfl nonempty
  | cons row rows ih =>
    simp only [List.mem_cons, forall_eq_or_imp] at wide each
    by_cases last : rows = []
    · subst last
      rw [rowTokens_singleton]
      exact reads_elements_row row wide.1 each.1 _ (.inl ⟨rfl, rfl⟩)
    · rw [rowTokens_cons row last, List.append_assoc, List.cons_append]
      exact reads_elements_row row wide.1 each.1 _
        (.inr ⟨_, rfl, ih last wide.2 each.2⟩)

/-- What can stand in the place of an argument leads to the reader that knows what to do. -/
theorem Completes.reads_argumentList {values : List Expr} (h : Completes .argument ts e)
    (us : List Token)
    (ends : us = .rightParen :: rest ∧ values = []
      ∨ ∃ vs, us = .comma :: vs ∧ Reads (argumentList vs) values rest)
    : Reads (argumentList (ts ++ us)) (e :: values) rest := by
  rcases h with ⟨derived, read⟩ | ⟨rfl, rfl⟩
  · obtain ⟨token, vs, rfl, starts⟩ := derived.head (by simp)
    have comma : token ≠ .comma := fun same => by rw [same] at starts; cases starts
    have close : token ≠ .rightParen := fun same => by rw [same] at starts; cases starts
    refine (reads_argumentList_given (by simpa using comma) (by simpa using close)).mpr ?_
    refine ⟨e, us, read us ?_, ?_⟩
    · rcases ends with ⟨rfl, rfl⟩ | ⟨vs, rfl, read⟩
      · exact stops_cons (by decide)
      · exact stops_cons (by decide)
    · rcases ends with ⟨rfl, rfl⟩ | ⟨vs, rfl, read⟩
      · exact .inr ⟨rfl, rfl⟩
      · exact .inl ⟨vs, values, rfl, read, rfl⟩
  · rcases ends with ⟨rfl, rfl⟩ | ⟨vs, rfl, read⟩
    · exact reads_argumentList_close.mpr ⟨rfl, rfl⟩
    · exact reads_argumentList_comma.mpr ⟨values, read, rfl⟩

/-- The arguments of a call are read one by one, by induction on the arguments. -/
theorem reads_argumentList_call (phrases : List Phrase) (nonempty : phrases ≠ [])
    (each : ∀ argument ∈ phrases, Completes .argument argument.tokens argument.value)
    : Reads (argumentList (commaTokens phrases ++ .rightParen :: rest))
        (phrases.map Phrase.value) rest := by
  induction phrases with
  | nil => exact absurd rfl nonempty
  | cons p phrases ih =>
    simp only [List.mem_cons, forall_eq_or_imp] at each
    by_cases last : phrases = []
    · subst last
      rw [commaTokens_singleton]
      exact each.1.reads_argumentList _ (.inl ⟨rfl, rfl⟩)
    · rw [commaTokens_cons p last, List.append_assoc, List.cons_append]
      exact each.1.reads_argumentList _ (.inr ⟨_, rfl, ih last each.2⟩)

/-- Arguments that are written at all do not start with a parenthesis that closes. -/
theorem head_commaTokens {phrases : List Phrase} (written : commaTokens phrases ≠ [])
    (each : ∀ argument ∈ phrases, Derives .argument argument.tokens argument.value)
    : (commaTokens phrases ++ rest).head? ≠ some .rightParen := by
  cases phrases with
  | nil => exact absurd rfl written
  | cons p phrases =>
    have first : p.tokens = [] ∨ ∃ token us, p.tokens = token :: us ∧ token.startsFormula := by
      obtain ⟨us, value⟩ := p
      cases each _ List.mem_cons_self with
      | given formula => exact .inr (formula.head (by simp))
      | leftOut => exact .inl rfl
    by_cases last : phrases = []
    · subst last
      rw [commaTokens_singleton] at written ⊢
      obtain ⟨token, us, same, starts⟩ := first.resolve_left written
      rw [same]
      intro close
      cases close
      cases starts
    · rw [commaTokens_cons p last]
      rcases first with same | ⟨token, us, same, starts⟩
      · rw [same]
        intro close
        cases close
      · rw [same]
        intro close
        cases close
        cases starts

-- Every derivation, and with soundness the grammar as a whole

/-- The parser reads what the grammar derives, by induction on the derivation. -/
theorem completes_of_derives {symbol : Symbol} (h : Derives symbol ts e)
    : Completes symbol ts e := by
  induction h with
  | @chain level us first links below head levels operands ihHead ihOperands =>
    intro rest stops
    refine (reads_binary below).mpr ⟨first, linkTokens links ++ rest, ?_, ?_⟩
    · rw [List.append_assoc]
      exact ihHead _ (stops.linkTokens levels)
    · exact reads_binaryRest_chain links levels ihOperands stops
  | operand operand ih =>
    intro rest stops
    exact reads_binary_operandLevel.mpr (ih rest stops)
  | negated operand ih =>
    intro rest stops
    exact reads_unary_minus.mpr ⟨_, ih rest stops, rfl⟩
  | plus operand ih =>
    intro rest stops
    exact reads_unary_plus.mpr ⟨_, ih rest stops, rfl⟩
  | percents count operand ih =>
    intro rest stops
    obtain ⟨token, us, rfl, starts⟩ := operand.head (by simp)
    have minus : token ≠ .minus := fun same => by rw [same] at starts; cases starts
    have plus : token ≠ .plus := fun same => by rw [same] at starts; cases starts
    refine (reads_unary (by simpa using minus) (by simpa using plus)).mpr ?_
    rw [List.append_assoc]
    refine ⟨_, _, ih _ ?_, percents_replicate _ count stops⟩
    cases count with
    | zero => exact stops.succ
    | succ count => exact stops_cons (by decide)
  | single atom ih =>
    intro rest stops
    refine reads_reference.mpr (.inl ⟨ih rest stops.succ, ?_⟩)
    exact fun colon => absurd (stops .colon colon) (by decide)
  | corners left right same ihLeft ihRight =>
    intro rest stops
    rw [List.append_assoc, List.cons_append]
    refine reads_reference.mpr (.inr ⟨_, _, _, ihLeft _ ?_, ihRight rest stops.succ, ?_⟩)
    · exact stops_cons (by decide)
    · exact rangeOf_eq_ok.mpr ⟨_, _, _, _, rfl, rfl, same, rfl⟩
  | literal same =>
    intro rest _
    exact (reads_atom_literal same).mpr ⟨rfl, rfl⟩
  | cell sheet read inGrid =>
    intro rest _
    rw [List.append_assoc]
    exact reads_atom_cell.mpr ⟨cellOf_eq_ok.mpr ⟨_, read, rfl⟩, rfl⟩
  | name name =>
    intro rest stops
    exact (reads_atom_name fun call => absurd (stops .leftParen call) (by decide)).mpr ⟨rfl, rfl⟩
  | emptyCall name =>
    intro rest _
    exact reads_atom_call.mpr ⟨_, reads_arguments_close.mpr ⟨rfl, rfl⟩, rfl⟩
  | call name phrases written each ih =>
    intro rest _
    have nonempty : phrases ≠ [] := fun empty => written (by rw [empty]; rfl)
    rw [List.append_assoc, List.singleton_append]
    repeat rw [List.cons_append]
    refine reads_atom_call.mpr ⟨_, ?_, rfl⟩
    exact (reads_arguments (head_commaTokens written each)).mpr
      (reads_argumentList_call phrases nonempty ih)
  | parentheses phrases head each ihHead ihEach =>
    intro rest _
    rw [List.append_assoc, List.append_assoc, List.singleton_append, List.cons_append]
    exact reads_atom_parentheses.mpr
      ⟨_, _, ihHead _ (stops_memberTokens phrases), reads_members_union phrases ihEach⟩
  | array rows nonempty wide rectangular each ih =>
    intro rest _
    rw [List.append_assoc, List.singleton_append]
    repeat rw [List.cons_append]
    have even : ∀ row ∈ rows, row ≠ [] :=
      fun row found => List.ne_nil_of_length_pos (rectangular row found ▸ wide)
    refine reads_atom_array.mpr ⟨_, reads_elements_rows rows nonempty even ih, ?_⟩
    refine arrayOf_eq_ok.mpr ⟨?_, rfl⟩
    obtain ⟨row, rows, rfl⟩ := List.exists_cons_of_ne_nil nonempty
    simp only [List.map_cons, List.head?_cons, Option.map_some, Option.getD_some, List.length_map,
      rectangular row List.mem_cons_self]
    simpa using rectangular
  | given formula ih => exact .inl ⟨formula, ih⟩
  | leftOut => exact .inr ⟨rfl, rfl⟩

/-- All tokens together are one formula if the grammar derives it from them. -/
theorem formula_eq_ok : formula ts = .ok e ↔ Derives .formula ts e := by
  have whole : formula ts = .ok e ↔ Reads (binary 1 ts) e [] := by
    unfold formula
    rw [except_bind_eq_ok]
    constructor
    · intro h
      obtain ⟨⟨value, rest, short⟩, read, h⟩ := h
      cases rest with
      | nil =>
        cases h
        exact ⟨short, read⟩
      | cons token rest => cases h
    · intro h
      obtain ⟨short, read⟩ := h
      exact ⟨_, read, rfl⟩
  rw [whole]
  constructor
  · intro read
    obtain ⟨us, rfl, derived⟩ := readsSoundly ts 1 (by decide) read
    rwa [List.append_nil]
  · intro derived
    have := completes_of_derives derived [] (fun token found => nomatch found)
    rwa [List.append_nil] at this

end Parse

namespace Expr

open Grammar

/-- A text whose first visible character is an equals sign is a formula just if the grammar
derives one from its tokens, and no run of tokens stands for two formulas.
-/
theorem parse_iff_derives (text : String)
    (starts : (text.toList.dropWhile Unicode.isWhiteSpace).head? = some '=')
    : (∀ e, parse text = .ok e
        ↔ Derives .formula (Token.scanAll (Unicode.trim text.toList).tail) e)
      ∧ ∀ ts e e', Derives .formula ts e → Derives .formula ts e' → e = e' := by
  constructor
  · intro e
    obtain ⟨cs, trimmed⟩ := Unicode.trim_of_head starts
    rw [parse, trimmed]
    exact Parse.formula_eq_ok
  · intro ts e e' derived derived'
    have := (Parse.formula_eq_ok.mpr derived).symm.trans (Parse.formula_eq_ok.mpr derived')
    exact Except.ok.inj this

/-- The signs of an operand go on around its percent signs. -/
theorem derives_of_parse_negated_percent
    : Derives .formula (Token.scanAll "-A1%".toList)
        (.unary .negate (.unary .percent (.cell none { row := 0, col := 0 }))) := by
  have parsed : parse " =-A1% "
      = .ok (.unary .negate (.unary .percent (.cell none { row := 0, col := 0 }))) := by
    with_unfolding_all rfl
  have tokens : (Unicode.trim " =-A1% ".toList).tail = "-A1%".toList := by decide
  rw [← tokens]
  exact ((parse_iff_derives " =-A1% " (by decide)).1 _).mp parsed

end Expr

end Spreadsheet
