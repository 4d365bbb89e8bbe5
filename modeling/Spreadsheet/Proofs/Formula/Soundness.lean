import Mathlib.Data.Nat.Init
import Spreadsheet.Proofs.Formula.Reading
import Spreadsheet.Proofs.Grid.Address

/-! Whatever the parser reads, the grammar derives. Each reader is treated on the assumption that
shorter runs of tokens are read soundly, and one induction on the length removes the assumption.
-/

namespace Spreadsheet.Parse

open Grammar

/-- The tokens in front of `rest` stand for a formula. -/
def Consumes (symbol : Symbol) (ts rest : List Token) (e : Expr) : Prop :=
  ∃ us, ts = us ++ rest ∧ Derives symbol us e

/-- Whatever a reader of formulas takes off some tokens stands for its result. -/
def ReadsSoundly (ts : List Token) : Prop :=
  ∀ level ≤ operandLevel, ∀ {e rest},
    Reads (binary level ts) e rest → Consumes (.chain level) ts rest e

-- What the parser makes of tokens and values that it has read

theorem operatorAt?_eq_some {level : Nat} {token : Token} {op : BinaryOperator}
    : operatorAt? level token = some op ↔ token = op.token ∧ op.level = level := by
  constructor
  · intro h
    cases token <;>
      simp only [operatorAt?, Option.filter_none, reduceCtorEq, Option.filter_eq_some_iff,
        Option.some.injEq, beq_iff_eq] at h
    all_goals
      obtain ⟨rfl, rfl⟩ := h
      exact ⟨rfl, rfl⟩
  · intro h
    obtain ⟨rfl, rfl⟩ := h
    rcases op with op | op | _
    · cases op <;> rfl
    · cases op <;> rfl
    · rfl

theorem cellOf_eq_ok {sheet : Option SheetRef} {text : String} {e : Expr}
    : cellOf sheet text = .ok e ↔ ∃ a, Address.parse text = .ok a ∧ e = .cell sheet a := by
  rw [cellOf]
  cases Address.parse text with
  | error _ => simp
  | ok a => simp [eq_comm]

theorem rangeOf_eq_ok {left right e : Expr}
    : rangeOf left right = .ok e
      ↔ ∃ sheet sheet' a b,
          left = .cell sheet a ∧ right = .cell sheet' b ∧ (sheet' = none ∨ sheet' = sheet)
          ∧ e = .range sheet (.spanning a b) := by
  constructor
  · intro h
    unfold rangeOf at h
    split at h
    · next sheet a sheet' b =>
      split at h
      · cases h
      · next same =>
        cases h
        refine ⟨sheet, sheet', a, b, rfl, rfl, ?_, rfl⟩
        cases sheet' with
        | none => exact .inl rfl
        | some _ => exact .inr (by simpa using same)
    · cases h
  · intro h
    obtain ⟨sheet, sheet', a, b, rfl, rfl, same, rfl⟩ := h
    rw [rangeOf, if_neg]
    rcases same with rfl | rfl <;> simp

theorem arrayOf_eq_ok {rows : List (List Expr)} {e : Expr}
    : arrayOf rows = .ok e
      ↔ (∀ row ∈ rows, row.length = (rows.head?.map List.length).getD 0) ∧ e = .array rows := by
  unfold arrayOf
  dsimp only
  split
  · next even => simpa [eq_comm] using fun _ => by simpa using even
  · next uneven => simpa [eq_comm] using fun even => (uneven (by simpa using even)).elim

/-- An operand takes all percent signs behind it, by induction on the tokens. -/
theorem percents_spec (operand : Expr) (ts : List Token)
    : ∃ count,
        ts = List.replicate count Token.percent ++ (percents operand ts).rest
        ∧ (percents operand ts).value = (Expr.unary .percent)^[count] operand
        ∧ (percents operand ts).rest.head? ≠ some .percent := by
  fun_induction percents operand ts with
  | case1 operand ts ih =>
    obtain ⟨count, taken, value, stop⟩ := ih
    refine ⟨count + 1, ?_, value, stop⟩
    rw [List.replicate_succ, List.cons_append]
    exact congrArg _ taken
  | case2 operand ts other =>
    refine ⟨0, rfl, rfl, fun percent => ?_⟩
    obtain ⟨us, rfl⟩ := List.head?_eq_some_iff.mp percent
    exact other us rfl

section Shorter

-- All shorter runs of tokens are read soundly

variable {ts rest : List Token} {e : Expr}

/-- The operators of a level and their operands, by induction on the number of tokens. -/
theorem Reads.sound_binaryRest {level : Nat} {left : Expr}
    (shorter : ∀ us, us.length < ts.length → ReadsSoundly us) (below : level < operandLevel)
    (h : Reads (binaryRest level left ts) e rest)
    : ∃ links : List (BinaryOperator × Phrase),
        ts = linkTokens links ++ rest ∧ e = linkFrom left links
        ∧ (∀ link ∈ links, link.1.level = level)
        ∧ ∀ link ∈ links, Derives (.chain (level + 1)) link.2.tokens link.2.value := by
  induction size : ts.length using Nat.strongRecOn generalizing ts left with
  | ind size ih =>
    cases ts with
    | nil =>
      obtain ⟨rfl, rfl⟩ := reads_binaryRest_nil.mp h
      exact ⟨[], by simp [linkTokens], rfl, by simp, by simp⟩
    | cons token ts =>
      cases isOperator : operatorAt? level token with
      | none =>
        obtain ⟨rfl, rfl⟩ := (reads_binaryRest_stop isOperator).mp h
        exact ⟨[], by simp [linkTokens], rfl, by simp, by simp⟩
      | some op =>
        obtain ⟨right, mid, read, more⟩ := (reads_binaryRest_link isOperator).mp h
        obtain ⟨rfl, atLevel⟩ := operatorAt?_eq_some.mp isOperator
        have fewer : mid.length < ts.length := read.shorter
        have longer : ts.length < (op.token :: ts).length := Nat.lt_succ_self _
        obtain ⟨us, rfl, operand⟩ := shorter ts longer _ below read
        obtain ⟨links, rfl, rfl, levels, operands⟩ := ih mid.length (by omega)
          (fun vs less => shorter vs (by omega)) more rfl
        refine ⟨(op, ⟨us, right⟩) :: links, ?_, rfl, ?_, ?_⟩
        · simp [linkTokens]
        · simp only [List.mem_cons, forall_eq_or_imp]
          exact ⟨atLevel, levels⟩
        · simp only [List.mem_cons, forall_eq_or_imp]
          exact ⟨operand, operands⟩

/-- The members of a union up to the parenthesis, by induction on the number of tokens. -/
theorem Reads.sound_members {left : Expr}
    (shorter : ∀ us, us.length < ts.length → ReadsSoundly us)
    (h : Reads (members left ts) e rest)
    : ∃ phrases : List Phrase,
        ts = memberTokens phrases ++ .rightParen :: rest ∧ e = uniteFrom left phrases
        ∧ ∀ member ∈ phrases, Derives .formula member.tokens member.value := by
  induction size : ts.length using Nat.strongRecOn generalizing ts left with
  | ind size ih =>
    rcases h.members_cases with ⟨us, rfl⟩ | ⟨us, rfl⟩
    · obtain ⟨right, mid, read, more⟩ := reads_members_comma.mp h
      have fewer : mid.length < us.length := read.shorter
      have longer : us.length < (Token.comma :: us).length := Nat.lt_succ_self _
      obtain ⟨vs, rfl, member⟩ := shorter us longer 1 (by decide) read
      obtain ⟨phrases, rfl, rfl, each⟩ := ih mid.length (by omega)
        (fun vs less => shorter vs (by omega)) more rfl
      refine ⟨⟨vs, right⟩ :: phrases, ?_, rfl, ?_⟩
      · simp [memberTokens]
      · simp only [List.mem_cons, forall_eq_or_imp]
        exact ⟨member, each⟩
    · obtain ⟨rfl, rfl⟩ := reads_members_close.mp h
      exact ⟨[], by simp [memberTokens], rfl, by simp⟩

/-- The elements of an array up to the brace, by induction on the number of tokens. -/
theorem Reads.sound_elements {values : List (List Expr)}
    (sound : ReadsSoundly ts) (shorter : ∀ us, us.length < ts.length → ReadsSoundly us)
    (h : Reads (elements ts) values rest)
    : ∃ rows : List (List Phrase),
        ts = rowTokens rows ++ .rightBrace :: rest ∧ values = rows.map (·.map Phrase.value)
        ∧ rows ≠ [] ∧ (∀ row ∈ rows, row ≠ [])
        ∧ ∀ row ∈ rows, ∀ element ∈ row, Derives .formula element.tokens element.value := by
  induction size : ts.length using Nat.strongRecOn generalizing ts values with
  | ind size ih =>
    obtain ⟨first, mid, read, more⟩ := reads_elements.mp h
    have fewer : mid.length < ts.length := read.shorter
    obtain ⟨vs, rfl, element⟩ := sound 1 (by decide) read
    rcases more with ⟨us, values, rfl, read', rfl⟩ | ⟨us, values, rfl, read', rfl⟩ | ⟨rfl, rfl⟩
    · simp only [List.length_cons] at fewer
      obtain ⟨rows, rfl, rfl, nonempty, wide, each⟩ := ih us.length (by omega)
        (shorter us (by omega)) (fun vs less => shorter vs (by omega)) read' rfl
      obtain ⟨row, rows, rfl⟩ := List.exists_cons_of_ne_nil nonempty
      refine ⟨(⟨vs, first⟩ :: row) :: rows, ?_, rfl, by simp, ?_, ?_⟩
      · have written : commaTokens (⟨vs, first⟩ :: row) = vs ++ .comma :: commaTokens row :=
          commaTokens_cons _ (wide row (by simp))
        cases rows with
        | nil => simp [rowTokens_singleton, written]
        | cons next rows => simp [rowTokens_cons, written]
      · simp only [List.mem_cons, forall_eq_or_imp] at wide ⊢
        exact ⟨by simp, wide.2⟩
      · simp only [List.mem_cons, forall_eq_or_imp] at each ⊢
        exact ⟨⟨element, each.1⟩, each.2⟩
    · simp only [List.length_cons] at fewer
      obtain ⟨rows, rfl, rfl, nonempty, wide, each⟩ := ih us.length (by omega)
        (shorter us (by omega)) (fun vs less => shorter vs (by omega)) read' rfl
      refine ⟨[⟨vs, first⟩] :: rows, ?_, rfl, by simp, ?_, ?_⟩
      · simp [rowTokens_cons, nonempty, commaTokens_singleton]
      · simp only [List.mem_cons, forall_eq_or_imp]
        exact ⟨by simp, wide⟩
      · simp only [List.mem_cons, forall_eq_or_imp]
        exact ⟨⟨element, by simp⟩, each⟩
    · exact ⟨[[⟨vs, first⟩]], by simp [rowTokens_singleton, commaTokens_singleton], rfl, by simp,
        by simp, by simpa using element⟩

/-- The arguments of a call up to the parenthesis, by induction on the number of tokens. -/
theorem Reads.sound_argumentList {values : List Expr}
    (sound : ReadsSoundly ts) (shorter : ∀ us, us.length < ts.length → ReadsSoundly us)
    (h : Reads (argumentList ts) values rest)
    : ∃ phrases : List Phrase,
        ts = commaTokens phrases ++ .rightParen :: rest ∧ values = phrases.map Phrase.value
        ∧ phrases ≠ []
        ∧ ∀ argument ∈ phrases, Derives .argument argument.tokens argument.value := by
  induction size : ts.length using Nat.strongRecOn generalizing ts values with
  | ind size ih =>
    -- An argument in front of a comma goes in front of the list that was read behind it.
    have add {vs us : List Token} {first : Expr} {values : List Expr}
        (written : ts = vs ++ .comma :: us) (argument : Derives .argument vs first)
        (read : Reads (argumentList us) values rest)
        : ∃ phrases : List Phrase,
            ts = commaTokens phrases ++ .rightParen :: rest
            ∧ first :: values = phrases.map Phrase.value
            ∧ phrases ≠ []
            ∧ ∀ argument ∈ phrases, Derives .argument argument.tokens argument.value := by
      have fewer : us.length < ts.length := by
        rw [written, List.length_append, List.length_cons]
        omega
      obtain ⟨phrases, rfl, rfl, nonempty, each⟩ := ih us.length (by omega)
        (shorter us fewer) (fun vs less => shorter vs (by omega)) read rfl
      refine ⟨⟨vs, first⟩ :: phrases, ?_, rfl, by simp, ?_⟩
      · rw [written, commaTokens_cons _ nonempty, List.append_assoc, List.cons_append]
      · simp only [List.mem_cons, forall_eq_or_imp]
        exact ⟨argument, each⟩
    by_cases comma : ts.head? = some .comma
    · obtain ⟨us, rfl⟩ := List.head?_eq_some_iff.mp comma
      obtain ⟨more, read, rfl⟩ := reads_argumentList_comma.mp h
      exact add rfl .leftOut read
    by_cases close : ts.head? = some .rightParen
    · obtain ⟨us, rfl⟩ := List.head?_eq_some_iff.mp close
      obtain ⟨rfl, rfl⟩ := reads_argumentList_close.mp h
      exact ⟨[⟨[], .missing⟩], by simp [commaTokens_singleton], rfl, by simp,
        by simpa using .leftOut⟩
    · obtain ⟨first, mid, read, more⟩ := (reads_argumentList_given comma close).mp h
      obtain ⟨vs, rfl, argument⟩ := sound 1 (by decide) read
      rcases more with ⟨us, more, rfl, read', rfl⟩ | ⟨rfl, rfl⟩
      · exact add rfl (.given argument) read'
      · exact ⟨[⟨vs, first⟩], by simp [commaTokens_singleton], rfl, by simp,
          by simpa using .given argument⟩

theorem Reads.sound_arguments {name : String} {values : List Expr}
    (sound : ReadsSoundly ts) (shorter : ∀ us, us.length < ts.length → ReadsSoundly us)
    (h : Reads (arguments ts) values rest)
    : Consumes .atom (.identifier name :: .leftParen :: ts) rest
        (.call (Text.upper name) values) := by
  by_cases close : ts.head? = some .rightParen
  · obtain ⟨us, rfl⟩ := List.head?_eq_some_iff.mp close
    obtain ⟨rfl, rfl⟩ := reads_arguments_close.mp h
    exact ⟨_, rfl, .emptyCall name⟩
  · rw [reads_arguments close] at h
    obtain ⟨phrases, rfl, rfl, nonempty, each⟩ := h.sound_argumentList sound shorter
    refine ⟨_, ?_, .call name phrases ?_ each⟩
    · simp
    · intro empty
      rw [empty] at close
      exact close rfl

/-- Every way to start an atom leads to a rule of the grammar. -/
theorem Reads.sound_atom
    (shorter : ∀ us, us.length < ts.length → ReadsSoundly us) (h : Reads (atom ts) e rest)
    : Consumes .atom ts rest e := by
  rcases h.atom_cases with ⟨token, same, rfl⟩ | ⟨sheet, text, read, rfl⟩ | ⟨name, rfl, rfl, _⟩
    | ⟨name, us, rfl⟩ | ⟨us, rfl⟩ | ⟨us, rfl⟩
  · exact ⟨[token], rfl, .literal same⟩
  · obtain ⟨a, parsed, rfl⟩ := cellOf_eq_ok.mp read
    refine ⟨sheetTokens sheet ++ [Token.cell text], by simp, ?_⟩
    exact .cell sheet parsed (Address.inGrid_of_parse parsed)
  · exact ⟨[.identifier name], rfl, .name name⟩
  · obtain ⟨values, read, rfl⟩ := reads_atom_call.mp h
    simp only [List.length_cons] at shorter
    exact read.sound_arguments (shorter us (by omega)) fun vs less => shorter vs (by omega)
  · obtain ⟨first, mid, read, more⟩ := reads_atom_parentheses.mp h
    simp only [List.length_cons] at shorter
    have fewer : mid.length < us.length := read.shorter
    obtain ⟨vs, rfl, head⟩ := shorter us (by omega) 1 (by decide) read
    obtain ⟨phrases, rfl, rfl, each⟩ := more.sound_members fun vs less => shorter vs (by omega)
    exact ⟨_, by simp, .parentheses phrases head each⟩
  · obtain ⟨values, read, even⟩ := reads_atom_array.mp h
    simp only [List.length_cons] at shorter
    obtain ⟨rows, rfl, rfl, nonempty, wide, each⟩ := read.sound_elements
      (shorter us (by omega)) fun vs less => shorter vs (by omega)
    obtain ⟨rectangular, rfl⟩ := arrayOf_eq_ok.mp even
    obtain ⟨row, rows, rfl⟩ := List.exists_cons_of_ne_nil nonempty
    refine ⟨_, ?_, .array _ nonempty (List.length_pos_iff.mpr (wide row (by simp))) ?_ each⟩
    · simp
    · simpa using rectangular

theorem Reads.sound_reference
    (shorter : ∀ us, us.length < ts.length → ReadsSoundly us) (h : Reads (reference ts) e rest)
    : Consumes .range ts rest e := by
  rcases reads_reference.mp h with ⟨single, _⟩ | ⟨left, mid, right, first, last, corners⟩
  · obtain ⟨us, rfl, atom⟩ := single.sound_atom shorter
    exact ⟨us, rfl, .single atom⟩
  · obtain ⟨sheet, sheet', a, b, rfl, rfl, same, rfl⟩ := rangeOf_eq_ok.mp corners
    obtain ⟨us, rfl, atom⟩ := first.sound_atom shorter
    simp only [List.length_append, List.length_cons] at shorter
    obtain ⟨vs, rfl, atom'⟩ := last.sound_atom fun ws less => shorter ws (by omega)
    exact ⟨us ++ .colon :: vs, by simp, .corners atom atom' same⟩

theorem Reads.sound_unary
    (shorter : ∀ us, us.length < ts.length → ReadsSoundly us) (h : Reads (unary ts) e rest)
    : Consumes .signed ts rest e := by
  -- An operand behind a sign is shorter, and what it consumes can only be an operand.
  have signed {us : List Token} {operand : Expr} (less : us.length < ts.length)
      (read : Reads (unary us) operand rest)
      : Consumes .signed us rest operand := by
    obtain ⟨vs, rfl, derived⟩ := shorter us less operandLevel (Nat.le_refl _)
      (reads_binary_operandLevel.mpr read)
    refine ⟨vs, rfl, ?_⟩
    cases derived with
    | chain links below => exact absurd below (Nat.lt_irrefl _)
    | operand operand => exact operand
  by_cases minus : ts.head? = some .minus
  · obtain ⟨us, rfl⟩ := List.head?_eq_some_iff.mp minus
    obtain ⟨operand, read, rfl⟩ := reads_unary_minus.mp h
    obtain ⟨vs, rfl, derived⟩ := signed (Nat.lt_succ_self _) read
    exact ⟨.minus :: vs, rfl, .negated derived⟩
  by_cases plus : ts.head? = some .plus
  · obtain ⟨us, rfl⟩ := List.head?_eq_some_iff.mp plus
    obtain ⟨operand, read, rfl⟩ := reads_unary_plus.mp h
    obtain ⟨vs, rfl, derived⟩ := signed (Nat.lt_succ_self _) read
    exact ⟨.plus :: vs, rfl, .plus derived⟩
  · obtain ⟨operand, mid, read, rfl, rfl⟩ := (reads_unary minus plus).mp h
    obtain ⟨us, rfl, derived⟩ := read.sound_reference shorter
    obtain ⟨count, taken, value, _⟩ := percents_spec operand mid
    rw [value]
    refine ⟨us ++ List.replicate count Token.percent, ?_, .percents count derived⟩
    rw [List.append_assoc, ← taken]

/-- A reader of a level is sound if those of all higher levels are, by induction downward. -/
theorem readsSoundly_of_shorter (shorter : ∀ us, us.length < ts.length → ReadsSoundly us)
    : ReadsSoundly ts := by
  intro level le e rest
  induction le using Nat.decreasingInduction generalizing e rest with
  | self =>
    intro h
    obtain ⟨us, rfl, derived⟩ := (reads_binary_operandLevel.mp h).sound_unary shorter
    exact ⟨us, rfl, .operand derived⟩
  | of_succ level below ih =>
    intro h
    obtain ⟨first, mid, read, more⟩ := (reads_binary below).mp h
    have fewer : mid.length < ts.length := read.shorter
    obtain ⟨us, rfl, head⟩ := ih read
    obtain ⟨links, rfl, rfl, levels, operands⟩ := more.sound_binaryRest
      (fun vs less => shorter vs (by omega)) below
    exact ⟨us ++ linkTokens links, by simp, .chain links below head levels operands⟩

end Shorter

/-- Every reader of a level is sound, by induction on the number of tokens. -/
theorem readsSoundly (ts : List Token) : ReadsSoundly ts := by
  induction size : ts.length using Nat.strongRecOn generalizing ts with
  | ind size ih => exact readsSoundly_of_shorter fun us less => ih us.length (size ▸ less) us rfl

end Spreadsheet.Parse
