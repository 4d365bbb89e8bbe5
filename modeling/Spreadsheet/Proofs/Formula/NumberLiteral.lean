import Spreadsheet.Proofs.Formula.Openings
import Spreadsheet.Proofs.Formula.RoundTrip
import Spreadsheet.Value.Operand

/-! Number literals of formulas and texts that are read as numbers. The scanner takes as much as
looks like a number and the parser goes on behind it, while a text is read as a whole; they accept
the same numerals and read the same numbers.
-/

namespace Spreadsheet

open Grammar Token

-- A number that was derived without parentheses is a single token

theorem exists_binary_of_links {first : Expr} {links : List (BinaryOperator × Phrase)}
    (some_ : links ≠ [])
    : ∃ op left right, linkFrom first links = .binary op left right := by
  obtain ⟨others, link, rfl⟩ := (List.eq_nil_or_concat links).resolve_left some_
  exact ⟨link.1, linkFrom first others, link.2.value, by simp [linkFrom]⟩

/-- Nothing but a literal stands for a number unless it is put in parentheses, by induction on the
derivation.
-/
theorem Grammar.Derives.eq_singleton {symbol : Symbol} {ts : List Token} {x : Float}
    (derived : Derives symbol ts (.number x)) (bare : leftParen ∉ ts)
    : ts = [number x] := by
  generalize same : Expr.number x = e at derived
  induction derived with
  | @chain level us first links below head levels operands ih =>
    rcases eq_or_ne links [] with rfl | some_
    · rw [linkTokens, List.flatMap_nil, List.append_nil] at bare ⊢
      exact ih bare same
    · obtain ⟨op, left, right, joined⟩
          : ∃ op left right, linkFrom first links = .binary op left right :=
        exists_binary_of_links some_
      cases same.trans joined
  | operand operand ih => exact ih bare same
  | @percents us e count operand ih =>
    cases count with
    | zero =>
      rw [List.replicate_zero, List.append_nil] at bare ⊢
      exact ih bare same
    | succ count =>
      rw [Function.iterate_succ_apply'] at same
      cases same
  | single atom ih => exact ih bare same
  | @literal token value read =>
    subst same
    cases token <;> cases read
    rfl
  | parentheses => exact absurd (by simp) bare
  | given formula ih => exact ih bare same
  | _ => cases same

/-- A text without parentheses has no token that is one. -/
theorem Token.leftParen_not_mem {cs : List Char} (bare : '(' ∉ cs) : leftParen ∉ scanAll cs := by
  intro mem
  have none : ((scanAll cs).map openings).sum = 0 :=
    Nat.le_zero.mp (List.count_eq_zero.mpr bare ▸ sum_openings_scanAll_le cs)
  have one := List.le_sum_of_mem (List.mem_map_of_mem (f := openings) mem)
  rw [none] at one
  cases one

-- One number token

namespace Number.Numeral

variable {cs : List Char} {x : Float}

/-- A numeral starts with a digit, or with a point and a digit behind it. -/
theorem exists_of_toFloat? (read : toFloat? cs = some x)
    : ∃ c rest, cs = c :: rest ∧ startsNumber c rest := by
  obtain ⟨d, chars, _⟩ := Option.bind_eq_some_iff.mp read
  unfold ofChars? at chars
  dsimp only [splitDigits] at chars
  split at chars
  · cases chars
  · next digits =>
    cases cs with
    | nil => simp [splitFraction] at digits
    | cons c rest =>
      refine ⟨c, rest, rfl, ?_⟩
      by_cases digit : c.isDigit
      · rw [startsNumber, digit, Bool.true_or]
      · rw [List.takeWhile_cons_of_neg digit, List.dropWhile_cons_of_neg digit] at digits
        unfold splitFraction at digits
        split at digits
        · next same =>
          cases same
          cases rest with
          | nil => simp [splitDigits] at digits
          | cons e behind =>
            have digit : e.isDigit := by
              by_contra other
              simp [splitDigits, List.takeWhile_cons_of_neg other] at digits
            simpa [startsNumber] using digit
        · simp at digits

end Number.Numeral

/-- Where there is no white space, a text is scanned as one number just if it reads as that number
as a whole.
-/
theorem Token.scanAll_eq_number_iff {cs : List Char} {x : Float}
    (visible : ∀ c ∈ cs, Unicode.isWhiteSpace c = false)
    : scanAll cs = [number x] ↔ Number.Numeral.toFloat? cs = some x := by
  constructor
  · intro scanned
    cases found : scan? cs with
    | none => cases (scanAll_eq_nil found).symm.trans scanned
    | some next =>
      obtain ⟨token, rest⟩ := next
      rw [scanAll_of_scan? found] at scanned
      obtain ⟨rfl, ended⟩ := List.cons.inj scanned
      obtain ⟨taken, _, rfl⟩ := exists_of_scan? found
      have blank : ∀ c ∈ rest, Unicode.isWhiteSpace c := by
        refine scan?_eq_none_iff.mp ?_
        cases more : scan? rest with
        | none => rfl
        | some next => cases (scanAll_of_scan? more).symm.trans ended
      obtain rfl : rest = [] := List.eq_nil_iff_forall_not_mem.mpr fun c mem => by
        cases (visible c (List.mem_append_right _ mem)).symm.trans (blank c mem)
      obtain ⟨c, more, whole, _, read⟩ := exists_of_number found
      rwa [← whole, List.dropWhile_eq_self_iff.mpr] at read
      intro nonempty
      simpa using visible _ (List.getElem_mem nonempty)
  · intro read
    obtain ⟨c, rest, rfl, starts⟩ := Number.Numeral.exists_of_toFloat? read
    have whole : scanNumber (c :: rest ++ []) = (number x, []) := scanNumber_append read nofun
    rw [List.append_nil] at whole
    rw [scanAll_cons (visible c List.mem_cons_self)
      ((scanAt_of_startsNumber starts).trans whole), scanAll_eq_nil rfl]

/-- A text that starts with a digit or a point has no white space and no sign to be cut off. -/
theorem Number.parse?_eq_toFloat? {text : String}
    (visible : ∀ c ∈ text.toList, Unicode.isWhiteSpace c = false)
    (starts : ∃ c ∈ text.toList.head?, c.isDigit ∨ c = '.')
    : parse? text = Numeral.toFloat? text.toList := by
  obtain ⟨c, head, start⟩ := starts
  obtain ⟨rest, chars⟩ := List.head?_eq_some_iff.mp head
  rw [parse?, Unicode.trim_eq_self (fun c first => visible c (List.mem_of_mem_head? first))
    (fun c last => visible c (List.mem_of_getLast? last)), chars]
  split
  · next same =>
    cases same
    rcases start with digit | point
    · cases digit
    · cases point
  · next same =>
    cases same
    rcases start with digit | point
    · cases digit
    · cases point
  · rfl

theorem Value.toNumber_text_iff {text : String} {x : Float}
    : (Value.text text).toNumber = .ok x ↔ Number.parse? text = some x := by
  rw [toNumber]
  cases Number.parse? text <;> simp

/-- A text of digits, points, exponent marks and signs that starts like a numeral is the literal of
a number in a formula just if it reads as that number, as it also does where an operator asks for a
number.
-/
theorem Expr.parse_number_iff {text : String} {x : Float}
    (chars : ∀ c ∈ text.toList, isNumeralChar c ∨ c = '+' ∨ c = '-')
    (starts : ∃ c ∈ text.toList.head?, c.isDigit ∨ c = '.')
    : (parse ("=" ++ text) = .ok (.number x) ↔ Number.parse? text = some x)
      ∧ (parse ("=" ++ text) = .ok (.number x) ↔ (Value.text text).toNumber = .ok x) := by
  have visible : ∀ c ∈ text.toList, Unicode.isWhiteSpace c = false := by
    intro c mem
    rcases chars c mem with inside | rfl | rfl
    · simp only [isNumeralChar, Bool.or_eq_true, decide_eq_true_eq, or_assoc] at inside
      rcases inside with digit | rfl | rfl | rfl
      · exact Unicode.not_isWhiteSpace_of_isAlphanumeric (Unicode.isAlphanumeric_of_isDigit digit)
      all_goals decide
    all_goals decide
  have bare : '(' ∉ text.toList := fun mem => absurd (chars '(' mem) (by decide)
  have written : "=" ++ text = String.ofList ('=' :: text.toList) := by
    rw [← String.toList_inj]
    simp
  have read : parse ("=" ++ text) = .ok (.number x) ↔ Number.parse? text = some x := by
    rw [written, parse_eq_formula (endsVisibly_of_forall visible), Parse.formula_eq_ok,
      Number.parse?_eq_toFloat? visible starts, ← scanAll_eq_number_iff visible]
    constructor
    · exact fun derived => derived.eq_singleton (leftParen_not_mem bare)
    · intro scanned
      rw [scanned]
      exact (Binds.of_atom (.literal rfl)).formula (by decide)
  exact ⟨read, read.trans Value.toNumber_text_iff.symm⟩

/-- A point in front and an exponent with a sign, and a point too many. -/
theorem Expr.parse_number_iff_exponent
    : (parse "=.25e+1" = .ok (.number 2.5) ∧ (Value.text ".25e+1").toNumber = .ok 2.5)
      ∧ Number.parse? "1.5.5" = none ∧ ∀ x, parse "=1.5.5" ≠ .ok (.number x) := by
  have inside {text : String} (all : text.toList.all fun c => isNumeralChar c || c = '+' || c = '-')
      : ∀ c ∈ text.toList, isNumeralChar c ∨ c = '+' ∨ c = '-' := by
    simpa [or_assoc] using all
  have read : Number.parse? ".25e+1" = some 2.5 := by with_unfolding_all rfl
  have unread : Number.parse? "1.5.5" = none := by with_unfolding_all rfl
  have literal : parse "=.25e+1" = .ok (.number 2.5) :=
    (parse_number_iff (inside (by decide)) ⟨'.', rfl, .inr rfl⟩).1.mpr read
  refine ⟨⟨literal, ?_⟩, unread, fun x parsed => ?_⟩
  · exact (parse_number_iff (inside (by decide)) ⟨'.', rfl, .inr rfl⟩).2.mp literal
  · cases unread.symm.trans
      ((parse_number_iff (inside (by decide)) ⟨'1', rfl, .inl rfl⟩).1.mp parsed)

end Spreadsheet
