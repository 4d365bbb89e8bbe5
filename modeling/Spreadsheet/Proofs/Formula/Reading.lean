import Spreadsheet.Proofs.Formula.Grammar
import Spreadsheet.Proofs.Outcome
import Spreadsheet.Formula.Parse

/-! What each reader of the parser does, as one equivalence per reader: when it succeeds, with
which value, and which tokens it leaves. Nothing behind these lemmas unfolds a reader.
-/

namespace Spreadsheet

namespace Parse

open Grammar

variable {α β : Type} {limit bound : Nat}

-- Readings, one step after another

/-- A reading gives a value and leaves some tokens. -/
def Reads (reading : ParseResult α limit) (value : α) (rest : List Token) : Prop :=
  ∃ shorter, reading = .ok ⟨value, rest, shorter⟩

theorem reads_pure {p : Parsed α limit} {value : α} {rest : List Token}
    : Reads (pure p) value rest ↔ p.value = value ∧ p.rest = rest := by
  obtain ⟨v, r, short⟩ := p
  constructor
  · intro h
    obtain ⟨_, h⟩ := h
    cases h
    exact ⟨rfl, rfl⟩
  · intro h
    obtain ⟨rfl, rfl⟩ := h
    exact ⟨short, rfl⟩

theorem reads_bind {reading : ParseResult α limit} {next : Parsed α limit → ParseResult β bound}
    {value : β} {rest : List Token}
    : Reads (reading >>= next) value rest
      ↔ ∃ first mid shorter,
          reading = .ok ⟨first, mid, shorter⟩ ∧ Reads (next ⟨first, mid, shorter⟩) value rest := by
  constructor
  · intro h
    obtain ⟨short, h⟩ := h
    obtain ⟨⟨first, mid, shorter⟩, read, h⟩ := except_bind_eq_ok.mp h
    exact ⟨first, mid, shorter, read, short, h⟩
  · intro h
    obtain ⟨first, mid, shorter, read, short, h⟩ := h
    exact ⟨short, except_bind_eq_ok.mpr ⟨_, read, h⟩⟩

theorem reads_except_bind {x : Except ParseError β} {next : β → ParseResult α limit}
    {value : α} {rest : List Token}
    : Reads (x >>= next) value rest ↔ ∃ b, x = .ok b ∧ Reads (next b) value rest := by
  constructor
  · intro h
    obtain ⟨short, h⟩ := h
    obtain ⟨b, read, h⟩ := except_bind_eq_ok.mp h
    exact ⟨b, read, short, h⟩
  · intro h
    obtain ⟨b, read, short, h⟩ := h
    exact ⟨short, except_bind_eq_ok.mpr ⟨_, read, h⟩⟩

theorem not_reads_throw {e : ParseError} {value : α} {rest : List Token}
    : ¬Reads (throw e : ParseResult α limit) value rest := by
  intro h
  obtain ⟨_, h⟩ := h
  cases h

/-- A reading always leaves fewer tokens than it may. -/
theorem Reads.shorter {reading : ParseResult α limit} {value : α} {rest : List Token}
    (h : Reads reading value rest)
    : rest.length < limit := by
  obtain ⟨short, _⟩ := h
  exact short

/-- That what was left is shorter matters to nothing behind a reading. -/
theorem exists_reads {reading : ParseResult α limit} {more : α → List Token → Prop}
    : (∃ first mid shorter, reading = .ok ⟨first, mid, shorter⟩ ∧ more first mid)
      ↔ ∃ first mid, Reads reading first mid ∧ more first mid := by
  constructor
  · intro h
    obtain ⟨first, mid, short, read, h⟩ := h
    exact ⟨first, mid, ⟨short, read⟩, h⟩
  · intro h
    obtain ⟨first, mid, ⟨short, read⟩, h⟩ := h
    exact ⟨first, mid, short, read, h⟩

theorem reads_weaken {reading : ParseResult α limit} {value : α} {rest : List Token}
    (h : limit ≤ bound)
    : Reads (reading >>= fun p => pure (p.weaken h)) value rest ↔ Reads reading value rest := by
  simp only [reads_bind, reads_pure, Parsed.weaken, exists_reads]
  constructor
  · intro read
    obtain ⟨_, _, read, rfl, rfl⟩ := read
    exact read
  · intro read
    exact ⟨value, rest, read, rfl, rfl⟩

theorem reads_map {reading : ParseResult α limit} {f : α → β} {value : β} {rest : List Token}
    (h : limit ≤ bound)
    : Reads (reading >>= fun p => pure ((p.map f).weaken h)) value rest
      ↔ ∃ first, Reads reading first rest ∧ f first = value := by
  simp only [reads_bind, reads_pure, Parsed.weaken, Parsed.map, exists_reads]
  constructor
  · intro read
    obtain ⟨v, _, read, rfl, rfl⟩ := read
    exact ⟨v, read, rfl⟩
  · intro read
    obtain ⟨v, read, rfl⟩ := read
    exact ⟨v, rest, read, rfl, rfl⟩

-- Binary operators, level by level

theorem reads_binary {level : Nat} {ts rest : List Token} {e : Expr} (below : level < operandLevel)
    : Reads (binary level ts) e rest
      ↔ ∃ first mid,
          Reads (binary (level + 1) ts) first mid ∧ Reads (binaryRest level first mid) e rest := by
  rw [binary, if_pos below, reads_bind]
  simp only [reads_weaken, exists_reads]

theorem reads_binary_operandLevel {ts rest : List Token} {e : Expr}
    : Reads (binary operandLevel ts) e rest ↔ Reads (unary ts) e rest := by
  rw [binary, if_neg (Nat.lt_irrefl _)]

theorem reads_binaryRest_nil {level : Nat} {left e : Expr} {rest : List Token}
    : Reads (binaryRest level left []) e rest ↔ left = e ∧ [] = rest := by
  rw [binaryRest, reads_pure]

theorem reads_binaryRest_stop {level : Nat} {left e : Expr} {token : Token} {ts rest : List Token}
    (h : operatorAt? level token = none)
    : Reads (binaryRest level left (token :: ts)) e rest ↔ left = e ∧ token :: ts = rest := by
  rw [binaryRest, h, reads_pure]

theorem reads_binaryRest_link {level : Nat} {left e : Expr} {token : Token} {ts rest : List Token}
    {op : BinaryOperator} (h : operatorAt? level token = some op)
    : Reads (binaryRest level left (token :: ts)) e rest
      ↔ ∃ right mid,
          Reads (binary (level + 1) ts) right mid
          ∧ Reads (binaryRest level (.binary op left right) mid) e rest := by
  rw [binaryRest, h]
  dsimp only
  rw [reads_bind]
  simp only [reads_weaken, exists_reads]

-- Signs, percent signs and the colon between two corners

theorem reads_unary_minus {ts rest : List Token} {e : Expr}
    : Reads (unary (.minus :: ts)) e rest
      ↔ ∃ operand, Reads (unary ts) operand rest ∧ .unary .negate operand = e := by
  rw [unary, reads_map]

theorem reads_unary_plus {ts rest : List Token} {e : Expr}
    : Reads (unary (.plus :: ts)) e rest
      ↔ ∃ operand, Reads (unary ts) operand rest ∧ .unary .plus operand = e := by
  rw [unary, reads_map]

theorem reads_unary {ts rest : List Token} {e : Expr}
    (minus : ts.head? ≠ some .minus) (plus : ts.head? ≠ some .plus)
    : Reads (unary ts) e rest
      ↔ ∃ operand mid,
          Reads (reference ts) operand mid
          ∧ (percents operand mid).value = e ∧ (percents operand mid).rest = rest := by
  rw [unary]
  · simp only [reads_bind, reads_pure, Parsed.weaken, exists_reads]
  · intro rest same
    subst same
    exact minus rfl
  · intro rest same
    subst same
    exact plus rfl

theorem reads_reference {ts rest : List Token} {e : Expr}
    : Reads (reference ts) e rest
      ↔ (Reads (atom ts) e rest ∧ rest.head? ≠ some .colon)
        ∨ ∃ left mid right,
            Reads (atom ts) left (.colon :: mid)
            ∧ Reads (atom mid) right rest
            ∧ rangeOf left right = .ok e := by
  rw [reference, reads_bind]
  constructor
  · intro h
    obtain ⟨left, after, short, read, h⟩ := h
    dsimp only at h
    split at h
    · next mid =>
      rw [reads_bind] at h
      obtain ⟨right, _, _, read', h⟩ := h
      rw [reads_except_bind] at h
      obtain ⟨range, corners, h⟩ := h
      rw [reads_pure] at h
      obtain ⟨rfl, rfl⟩ := h
      exact .inr ⟨left, mid, right, ⟨short, read⟩, ⟨_, read'⟩, corners⟩
    · next other =>
      rw [reads_pure] at h
      obtain ⟨rfl, rfl⟩ := h
      refine .inl ⟨⟨short, read⟩, fun colon => ?_⟩
      obtain ⟨mid, rfl⟩ := List.head?_eq_some_iff.mp colon
      exact other mid rfl
  · intro h
    rcases h with
      ⟨⟨short, read⟩, other⟩ | ⟨left, mid, right, ⟨short, read⟩, ⟨short', read'⟩, corners⟩
    · refine ⟨e, rest, short, read, ?_⟩
      dsimp only
      split
      · exact absurd rfl other
      · rw [reads_pure]
        exact ⟨rfl, rfl⟩
    · refine ⟨left, _, short, read, ?_⟩
      dsimp only
      rw [reads_bind]
      refine ⟨right, rest, short', read', ?_⟩
      simp only [reads_except_bind, reads_pure]
      exact ⟨e, corners, by simp⟩

-- Atoms, told apart by the tokens that they start with

attribute [local simp] atom

theorem reads_atom_literal {token : Token} {value e : Expr} {ts rest : List Token}
    (h : token.literal? = some value)
    : Reads (atom (token :: ts)) e rest ↔ value = e ∧ ts = rest := by
  cases token <;> simp only [Token.literal?, Option.some.injEq, reduceCtorEq] at h
  all_goals
    subst h
    rw [atom, reads_pure]

theorem reads_atom_cell {sheet : Option SheetRef} {text : String} {ts rest : List Token} {e : Expr}
    : Reads (atom (sheetTokens sheet ++ .cell text :: ts)) e rest
      ↔ cellOf sheet text = .ok e ∧ ts = rest := by
  cases sheet with
  | none =>
    rw [sheetTokens, List.nil_append, atom, reads_except_bind]
    simp only [reads_pure]
    exact ⟨fun ⟨_, read, h, h'⟩ => ⟨h ▸ read, h'⟩, fun ⟨read, h⟩ => ⟨e, read, rfl, h⟩⟩
  | some sheet =>
    rw [sheetTokens, List.singleton_append, atom, reads_except_bind]
    simp only [reads_pure]
    exact ⟨fun ⟨_, read, h, h'⟩ => ⟨h ▸ read, h'⟩, fun ⟨read, h⟩ => ⟨e, read, rfl, h⟩⟩

theorem reads_atom_parentheses {ts rest : List Token} {e : Expr}
    : Reads (atom (.leftParen :: ts)) e rest
      ↔ ∃ first mid, Reads (binary 1 ts) first mid ∧ Reads (members first mid) e rest := by
  rw [atom, reads_bind]
  simp only [reads_weaken, exists_reads]

theorem reads_atom_array {ts rest : List Token} {e : Expr}
    : Reads (atom (.leftBrace :: ts)) e rest
      ↔ ∃ rows, Reads (elements ts) rows rest ∧ arrayOf rows = .ok e := by
  rw [atom, reads_bind]
  simp only [reads_except_bind, reads_pure, exists_reads]
  constructor
  · intro h
    obtain ⟨rows, _, read, _, even, rfl, rfl⟩ := h
    exact ⟨rows, read, even⟩
  · intro h
    obtain ⟨rows, read, even⟩ := h
    exact ⟨rows, rest, read, e, even, rfl, rfl⟩

theorem reads_atom_call {name : String} {ts rest : List Token} {e : Expr}
    : Reads (atom (.identifier name :: .leftParen :: ts)) e rest
      ↔ ∃ list, Reads (arguments ts) list rest ∧ .call (Text.upper name) list = e := by
  rw [atom, reads_map]

theorem reads_atom_name {name : String} {ts rest : List Token} {e : Expr}
    (h : ts.head? ≠ some .leftParen)
    : Reads (atom (.identifier name :: ts)) e rest ↔ .name name = e ∧ ts = rest := by
  rw [atom, reads_pure]
  intro after same
  subst same
  exact h rfl

/-- An atom starts with a literal, a reference, a word, a parenthesis or a brace. -/
theorem Reads.atom_cases {ts rest : List Token} {e : Expr} (h : Reads (atom ts) e rest)
    : (∃ token, token.literal? = some e ∧ ts = token :: rest)
      ∨ (∃ sheet text,
          cellOf sheet text = .ok e ∧ ts = sheetTokens sheet ++ Token.cell text :: rest)
      ∨ (∃ name, e = .name name ∧ ts = .identifier name :: rest ∧ rest.head? ≠ some .leftParen)
      ∨ (∃ name us, ts = .identifier name :: .leftParen :: us)
      ∨ (∃ us, ts = .leftParen :: us)
      ∨ (∃ us, ts = .leftBrace :: us) := by
  have throws {x : ParseError} (same : atom ts = throw x) : False :=
    not_reads_throw (same ▸ h)
  have isCell (sheet : Option SheetRef) {text us}
      (same : ts = sheetTokens sheet ++ Token.cell text :: us)
      : ∃ sheet text,
          cellOf sheet text = .ok e ∧ ts = sheetTokens sheet ++ Token.cell text :: rest := by
    obtain ⟨read, rfl⟩ := reads_atom_cell.mp (same ▸ h)
    exact ⟨sheet, text, read, same⟩
  cases ts with
  | nil => exact (throws (by rw [atom])).elim
  | cons token us =>
    cases token
    case number | text | boolean | error =>
      obtain ⟨rfl, rfl⟩ := (reads_atom_literal rfl).mp h
      exact .inl ⟨_, rfl, rfl⟩
    case identifier name =>
      by_cases call : us.head? = some .leftParen
      · obtain ⟨vs, rfl⟩ := List.head?_eq_some_iff.mp call
        exact .inr (.inr (.inr (.inl ⟨name, vs, rfl⟩)))
      · obtain ⟨rfl, rfl⟩ := (reads_atom_name call).mp h
        exact .inr (.inr (.inl ⟨name, rfl, rfl, call⟩))
    case cell text => exact .inr (.inl (isCell none rfl))
    case sheet sheet =>
      by_cases cell : ∃ text vs, us = .cell text :: vs
      · obtain ⟨text, vs, rfl⟩ := cell
        exact .inr (.inl (isCell (some sheet) rfl))
      · refine (throws (x := .sheetWithoutCell sheet) ?_).elim
        rw [atom]
        intro text vs same
        subst same
        exact cell ⟨text, vs, rfl⟩
    case leftParen => exact .inr (.inr (.inr (.inr (.inl ⟨us, rfl⟩))))
    case leftBrace => exact .inr (.inr (.inr (.inr (.inr ⟨us, rfl⟩))))
    all_goals exact (throws (by rw [atom] <;> simp)).elim

-- Unions, arrays and arguments, each read up to what closes it

theorem reads_members_comma {left e : Expr} {ts rest : List Token}
    : Reads (members left (.comma :: ts)) e rest
      ↔ ∃ right mid,
          Reads (binary 1 ts) right mid ∧ Reads (members (.union left right) mid) e rest := by
  rw [members, reads_bind]
  simp only [reads_weaken, exists_reads]

theorem reads_members_close {left e : Expr} {ts rest : List Token}
    : Reads (members left (.rightParen :: ts)) e rest ↔ left = e ∧ ts = rest := by
  rw [members, reads_pure]

/-- The members of a union end at a parenthesis, and a comma leads to the next one. -/
theorem Reads.members_cases {left e : Expr} {ts rest : List Token}
    (h : Reads (members left ts) e rest)
    : (∃ us, ts = .comma :: us) ∨ (∃ us, ts = .rightParen :: us) := by
  by_cases comma : ∃ us, ts = .comma :: us
  · exact .inl comma
  by_cases close : ∃ us, ts = .rightParen :: us
  · exact .inr close
  · rw [members] at h
    · exact (not_reads_throw h).elim
    · exact fun us same => comma ⟨us, same⟩
    · exact fun us same => close ⟨us, same⟩

/-- Puts an element in front of the first of the rows that were read behind it. -/
def consElement (first : Expr) : List (List Expr) → List (List Expr)
  | row :: rows => (first :: row) :: rows
  | [] => [[first]]

theorem reads_elements {ts rest : List Token} {rows : List (List Expr)}
    : Reads (elements ts) rows rest
      ↔ ∃ first mid,
          Reads (binary 1 ts) first mid
          ∧ ((∃ us more,
                mid = .comma :: us ∧ Reads (elements us) more rest ∧ rows = consElement first more)
            ∨ (∃ us more,
                mid = .semicolon :: us ∧ Reads (elements us) more rest ∧ rows = [first] :: more)
            ∨ (mid = .rightBrace :: rest ∧ rows = [[first]])) := by
  rw [elements, reads_bind]
  constructor
  · intro h
    obtain ⟨first, mid, short, read, h⟩ := h
    refine ⟨first, mid, ⟨short, read⟩, ?_⟩
    dsimp only at h
    split at h
    · next us =>
      rw [reads_bind] at h
      obtain ⟨more, _, _, read', h⟩ := h
      rw [reads_pure] at h
      obtain ⟨rfl, rfl⟩ := h
      exact .inl ⟨us, more, rfl, ⟨_, read'⟩, by cases more <;> rfl⟩
    · next us =>
      rw [reads_bind] at h
      obtain ⟨more, _, _, read', h⟩ := h
      rw [reads_pure] at h
      obtain ⟨rfl, rfl⟩ := h
      exact .inr (.inl ⟨us, more, rfl, ⟨_, read'⟩, rfl⟩)
    · rw [reads_pure] at h
      obtain ⟨rfl, rfl⟩ := h
      exact .inr (.inr ⟨rfl, rfl⟩)
    · exact (not_reads_throw h).elim
  · intro h
    obtain ⟨first, mid, ⟨short, read⟩, h⟩ := h
    refine ⟨first, mid, short, read, ?_⟩
    rcases h with ⟨us, more, rfl, ⟨_, read'⟩, rfl⟩ | ⟨us, more, rfl, ⟨_, read'⟩, rfl⟩ | ⟨rfl, rfl⟩
    · dsimp only
      rw [reads_bind]
      refine ⟨more, rest, _, read', ?_⟩
      rw [reads_pure]
      exact ⟨by cases more <;> rfl, rfl⟩
    · dsimp only
      rw [reads_bind]
      refine ⟨more, rest, _, read', ?_⟩
      rw [reads_pure]
      exact ⟨rfl, rfl⟩
    · dsimp only
      rw [reads_pure]
      exact ⟨rfl, rfl⟩

theorem reads_arguments_close {ts rest : List Token} {list : List Expr}
    : Reads (arguments (.rightParen :: ts)) list rest ↔ [] = list ∧ ts = rest := by
  rw [arguments, reads_pure]

theorem reads_arguments {ts rest : List Token} {list : List Expr}
    (open? : ts.head? ≠ some .rightParen)
    : Reads (arguments ts) list rest ↔ Reads (argumentList ts) list rest := by
  rw [arguments]
  intro us same
  subst same
  exact open? rfl

theorem reads_argumentList_comma {ts rest : List Token} {list : List Expr}
    : Reads (argumentList (.comma :: ts)) list rest
      ↔ ∃ more, Reads (argumentList ts) more rest ∧ .missing :: more = list := by
  rw [argumentList, reads_map]

theorem reads_argumentList_close {ts rest : List Token} {list : List Expr}
    : Reads (argumentList (.rightParen :: ts)) list rest ↔ [.missing] = list ∧ ts = rest := by
  rw [argumentList, reads_pure]

theorem reads_argumentList_given {ts rest : List Token} {list : List Expr}
    (comma : ts.head? ≠ some .comma) (close : ts.head? ≠ some .rightParen)
    : Reads (argumentList ts) list rest
      ↔ ∃ first mid,
          Reads (binary 1 ts) first mid
          ∧ ((∃ us more,
                mid = .comma :: us ∧ Reads (argumentList us) more rest ∧ list = first :: more)
            ∨ (mid = .rightParen :: rest ∧ list = [first])) := by
  rw [argumentList, reads_bind]
  · constructor
    · intro h
      obtain ⟨first, mid, short, read, h⟩ := h
      refine ⟨first, mid, ⟨short, read⟩, ?_⟩
      dsimp only at h
      split at h
      · next us =>
        rw [reads_map] at h
        obtain ⟨more, read', rfl⟩ := h
        exact .inl ⟨us, more, rfl, read', rfl⟩
      · rw [reads_pure] at h
        obtain ⟨rfl, rfl⟩ := h
        exact .inr ⟨rfl, rfl⟩
      · exact (not_reads_throw h).elim
    · intro h
      obtain ⟨first, mid, ⟨short, read⟩, h⟩ := h
      refine ⟨first, mid, short, read, ?_⟩
      rcases h with ⟨us, more, rfl, read', rfl⟩ | ⟨rfl, rfl⟩
      · dsimp only
        rw [reads_map]
        exact ⟨more, read', rfl⟩
      · dsimp only
        rw [reads_pure]
        exact ⟨rfl, rfl⟩
  · intro us same
    subst same
    exact comma rfl
  · intro us same
    subst same
    exact close rfl

end Parse

end Spreadsheet
