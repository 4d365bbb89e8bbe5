import Spreadsheet.Proofs.Formula.Words

/-! The sheets in front of a reference are read back as they were written: bare where no name in
them needs quotes, and else in one pair of quotes. Only an index that is too great to be written is
read back as another one.
-/

namespace Spreadsheet

open Text

namespace SheetName

/-- A name that needs no quotes is a word of ASCII letters, digits and underscores. -/
theorem exists_of_bare {name : String} (h : needsQuotes name = false)
    : ∃ c cs, name.toList = c :: cs ∧ c.isDigit = false ∧ ∀ d ∈ c :: cs, isBareChar d := by
  unfold needsQuotes at h
  split at h
  · cases h
  · next c cs written =>
    simp only [Bool.or_eq_false_iff, Bool.not_eq_false', List.all_eq_true] at h
    exact ⟨c, cs, written, h.1.1.1, h.1.1.2⟩

theorem isIdentifierChar_of_isBareChar {c : Char} (h : isBareChar c)
    : Token.isIdentifierChar c := by
  simp only [isBareChar, Char.isAlphanum, Bool.or_eq_true, decide_eq_true_eq] at h
  rcases h with (letter | digit) | rfl
  · exact Token.isIdentifierChar_of_isAlphanumeric (Unicode.isAlphanumeric_of_isAlpha letter)
  · exact Token.isIdentifierChar_of_isAlphanumeric (Unicode.isAlphanumeric_of_isDigit digit)
  · decide

theorem isBracketChar_of_isBareChar {c : Char} (h : isBareChar c) : Token.isBracketChar c := by
  simp only [isBareChar, Char.isAlphanum, Bool.or_eq_true, decide_eq_true_eq] at h
  rcases h with (letter | digit) | rfl
  · simp [Token.isBracketChar, Unicode.isAlphanumeric_of_isAlpha letter]
  · simp [Token.isBracketChar, Unicode.isAlphanumeric_of_isDigit digit]
  · decide

theorem isWord_of_bare {name : String} (h : needsQuotes name = false) : Token.IsWord name := by
  obtain ⟨c, cs, written, noDigit, all⟩ := exists_of_bare h
  constructor
  · refine ⟨c, by rw [written]; rfl, ?_⟩
    have first := all c List.mem_cons_self
    simp only [isBareChar, Char.isAlphanum, noDigit, Bool.or_false, Bool.or_eq_true,
      decide_eq_true_eq] at first
    rcases first with letter | rfl
    · simp [Token.isIdentifierStart, letter]
    · decide
  · rw [written]
    exact fun d mem => isIdentifierChar_of_isBareChar (all d mem)

end SheetName

namespace SheetRef

variable {r : SheetRef}

-- The text between the quotes

/-- The workbook index in its brackets. -/
def bookChars (r : SheetRef) : List Char :=
  match r.book with
  | some n => '[' :: (Nat.toDigits 10 n ++ [']'])
  | none => []

/-- The last sheet with its colon. -/
def lastChars (r : SheetRef) : List Char :=
  match r.last with
  | some name => ':' :: name.toList
  | none => []

/-- The sheets as they are written without quotes. -/
def bareChars (r : SheetRef) : List Char :=
  r.bookChars ++ (r.first.toList ++ r.lastChars)

/-- One of the names needs quotes. -/
def isQuoted (r : SheetRef) : Bool :=
  SheetName.needsQuotes r.first || r.last.any SheetName.needsQuotes

theorem not_mem_bookChars : '\'' ∉ r.bookChars := by
  unfold bookChars
  split
  · next n _ =>
    have digits : '\'' ∉ Nat.toDigits 10 n := fun mem =>
      absurd (Number.Numeral.isDigit_of_mem_toDigits mem) (by decide)
    simp [digits]
  · simp

/-- The quotes, if there are any, stand around all of it. -/
theorem toList_text (written : ∀ n ∈ r.book, n ≤ maxWrittenBook)
    : r.text.toList = if r.isQuoted then enclose '\'' r.bareChars else r.bareChars := by
  obtain ⟨book, first, last⟩ := r
  have index : book.map (min maxWrittenBook) = book := by
    cases book with
    | none => rfl
    | some n => exact congrArg some (Nat.min_eq_right (written n rfl))
  have quoted : isQuoted ⟨book, first, last⟩
      = (SheetName.needsQuotes first || last.any SheetName.needsQuotes) := rfl
  simp only [text, SheetName.writeSpan, String.toList_ofList, index, Option.any_some,
    Option.getD_some, ← quoted]
  cases isQuoted ⟨book, first, last⟩ with
  | true =>
    have doubled := double_of_not_mem (not_mem_bookChars (r := ⟨book, first, last⟩))
    simp only [if_true, enclose, bareChars, double_append, doubled]
    cases book <;> cases last <;> simp [bookChars, lastChars, double]
  | false =>
    cases book <;> cases last <;> simp [bareChars, bookChars, lastChars]

/-- The sheets that the text shows: an index that is too great is cut down to the greatest one. -/
def written (r : SheetRef) : SheetRef :=
  { r with book := r.book.map (min maxWrittenBook) }

theorem text_written : r.written.text = r.text := by
  have index (book : Option Nat)
      : (book.map (min maxWrittenBook)).map (min maxWrittenBook)
        = book.map (min maxWrittenBook) := by
    cases book with
    | none => rfl
    | some n => simp
  simp only [text, written, index]

theorem le_of_mem_written : ∀ n ∈ r.written.book, n ≤ maxWrittenBook := by
  intro n mem
  obtain ⟨index, _, rfl⟩ := Option.map_eq_some_iff.mp mem
  exact Nat.min_le_left _ _

/-- Only a greater index is changed. -/
theorem written_eq_self_iff : r.written = r ↔ ∀ n ∈ r.book, n ≤ maxWrittenBook := by
  constructor
  · intro same
    rw [← same]
    exact le_of_mem_written
  · intro small
    obtain ⟨book, first, last⟩ := r
    cases book with
    | none => rfl
    | some n =>
      have index : min maxWrittenBook n = n := Nat.min_eq_right (small n rfl)
      simp [written, index]

theorem Proper.written (proper : r.Proper) : r.written.Proper := by
  refine ⟨?_, proper.first, proper.last, proper.noColon, ?_⟩
  · intro n mem
    obtain ⟨index, found, rfl⟩ := Option.map_eq_some_iff.mp mem
    exact Nat.lt_of_le_of_lt (Nat.min_le_right _ _) (proper.book index found)
  · intro none
    exact proper.noBracket (Option.map_eq_none_iff.mp none)

theorem book?_toDigits {n : Nat} (h : n < 0x100000000) : book? (Nat.toDigits 10 n) = some n := by
  obtain ⟨c, cs, digits, digit⟩ := Number.Numeral.exists_toDigits n
  have noSign : c ≠ '+' := by
    intro same
    subst same
    cases digit
  have all := Number.Numeral.all_isDigit_toDigits n
  have value := Number.Numeral.digitsValue_toDigits n
  rw [digits] at all value ⊢
  have bounded : ¬0x100000000 ≤ n := Nat.not_le.mpr h
  have accepted
      : ((c :: cs).isEmpty || !(c :: cs).all Char.isDigit || decide (0x100000000 ≤ n)) = false := by
    rw [all, decide_eq_false bounded]
    rfl
  unfold book?
  split
  · next same => exact absurd (List.cons.inj same).1 noSign
  · dsimp only
    rw [value, accepted]
    rfl

theorem toList_ne_nil {name : String} (h : name ≠ "") : name.toList ≠ [] :=
  fun empty => h (String.toList_inj.mp empty)

theorem span?_chars (proper : r.Proper) (book : Option Nat)
    : span? book (r.first.toList ++ r.lastChars) = some ⟨book, r.first, r.last⟩ := by
  obtain ⟨c, cs, first⟩ := List.exists_cons_of_ne_nil (toList_ne_nil proper.first)
  have name : String.ofList (c :: cs) = r.first := by rw [← first, String.ofList_toList]
  have noColon := proper.noColon
  unfold lastChars
  cases found : r.last with
  | none =>
    dsimp only
    rw [List.append_nil, span?, cutAt_of_not_mem noColon, first]
    simp [name]
  | some last =>
    have nonempty : last ≠ "" := fun empty => proper.last (by rw [found, empty])
    obtain ⟨d, ds, written⟩ := List.exists_cons_of_ne_nil (toList_ne_nil nonempty)
    have lastName : String.ofList (d :: ds) = last := by rw [← written, String.ofList_toList]
    dsimp only
    rw [span?, cutAt_append _ noColon, first, written]
    simp [name, lastName]

/-- What is written without quotes reads back. -/
theorem ofChars?_bareChars (proper : r.Proper) : ofChars? r.bareChars = some r := by
  have span := span?_chars proper
  unfold bareChars bookChars
  cases found : r.book with
  | none =>
    obtain ⟨c, cs, first⟩ := List.exists_cons_of_ne_nil (toList_ne_nil proper.first)
    have noBracket : c ≠ '[' := by
      intro same
      exact proper.noBracket found (by rw [first, same]; rfl)
    have read : ofChars? (c :: (cs ++ r.lastChars)) = span? none (c :: (cs ++ r.lastChars)) := by
      simp [ofChars?, noBracket]
    have spanned := span none
    rw [first, List.cons_append] at spanned ⊢
    rw [List.nil_append, read, spanned, ← found]
  | some n =>
    have noClosing : ']' ∉ Nat.toDigits 10 n := fun mem =>
      absurd (Number.Numeral.isDigit_of_mem_toDigits mem) (by decide)
    have bounded : n < 0x100000000 := proper.book n found
    simp only [List.cons_append, List.append_assoc, List.nil_append, ofChars?,
      cutAt_append _ noClosing, book?_toDigits bounded]
    change span? (some n) _ = _
    rw [span, ← found]

/-- Names that need no quotes and their brackets and colons are scanned to the end. -/
theorem isBracketChar_of_mem (bare : r.isQuoted = false) {c : Char} (mem : c ∈ r.bareChars)
    : Token.isBracketChar c := by
  obtain ⟨bareFirst, bareLast⟩ := Bool.or_eq_false_iff.mp bare
  have inside {name : String} (h : SheetName.needsQuotes name = false) (mem : c ∈ name.toList)
      : Token.isBracketChar c := by
    obtain ⟨d, ds, written, _, all⟩ := SheetName.exists_of_bare h
    exact SheetName.isBracketChar_of_isBareChar (all c (by rwa [← written]))
  rcases List.mem_append.mp mem with mem | mem
  · unfold bookChars at mem
    split at mem
    · rcases List.mem_cons.mp mem with rfl | mem
      · decide
      · rcases List.mem_append.mp mem with mem | mem
        · have digit := Number.Numeral.isDigit_of_mem_toDigits mem
          simp [Token.isBracketChar, Unicode.isAlphanumeric_of_isDigit digit]
        · obtain rfl := List.mem_singleton.mp mem
          decide
    · cases mem
  · rcases List.mem_append.mp mem with mem | mem
    · exact inside bareFirst mem
    · unfold lastChars at mem
      split at mem
      · next last found =>
        rw [found] at bareLast
        rcases List.mem_cons.mp mem with rfl | mem
        · decide
        · exact inside bareLast mem
      · cases mem

end SheetRef

namespace Token

variable {r : SheetRef} {rest : List Char}

-- Sheets in front of a reference

theorem scanWord_sheet {first : String} (isWord : IsWord first)
    : scanWord (first.toList ++ '!' :: rest) = (sheet { first }, rest) := by
  have stops : StopsAt isIdentifierChar ('!' :: rest) := stopsAt_cons (by decide)
  unfold scanWord
  rw [takeWhile_run isWord.chars stops, dropWhile_run isWord.chars stops]
  simp only [String.ofList_toList]

theorem scanWord_span {first last : String} (isWord : IsWord first) (isWord' : IsWord last)
    : scanWord (first.toList ++ ':' :: (last.toList ++ '!' :: rest))
      = (sheet { first, last := some last }, rest) := by
  have behindFirst : StopsAt isIdentifierChar (':' :: (last.toList ++ '!' :: rest)) :=
    stopsAt_cons (by decide)
  have behindLast : StopsAt isIdentifierChar ('!' :: rest) := stopsAt_cons (by decide)
  have nonempty : last.toList.isEmpty = false := by
    simpa using SheetRef.toList_ne_nil isWord'.ne_empty
  have found : lastSheet? (last.toList ++ '!' :: rest) = some (last, rest) := by
    unfold lastSheet?
    rw [takeWhile_run isWord'.chars behindLast, dropWhile_run isWord'.chars behindLast]
    simp only [nonempty, Bool.false_eq_true, if_false, String.ofList_toList]
  unfold scanWord
  rw [takeWhile_run isWord.chars behindFirst, dropWhile_run isWord.chars behindFirst]
  simp only [found, String.ofList_toList]

/-- Sheets whose index is written as it is are scanned as these sheets. -/
theorem scan?_sheet (proper : r.Proper) (written : ∀ n ∈ r.book, n ≤ SheetRef.maxWrittenBook)
    : scan? (r.text.toList ++ '!' :: rest) = some (sheet r, rest) := by
  have read : ofSheetChars r.bareChars = sheet r := by
    rw [ofSheetChars, SheetRef.ofChars?_bareChars proper]
  rw [SheetRef.toList_text written]
  cases quoted : r.isQuoted with
  | true =>
    have scanned : scanAt '\'' (double '\'' r.bareChars ++ ['\''] ++ '!' :: rest)
        = (sheet r, rest) := by
      change scanQuotedSheet _ = _
      rw [List.append_assoc, List.cons_append, List.nil_append, scanQuotedSheet,
        splitQuoted_double r.bareChars (by simp)]
      simp only [read]
    exact (scan?_of_visible (by decide)).trans (congrArg some scanned)
  | false =>
    simp only [Bool.false_eq_true, if_false]
    obtain ⟨bareFirst, bareLast⟩ := Bool.or_eq_false_iff.mp quoted
    have isWord : IsWord r.first := SheetName.isWord_of_bare bareFirst
    obtain ⟨book, first, last⟩ := r
    cases book with
    | some n =>
      have chars := fun c => SheetRef.isBracketChar_of_mem (c := c) quoted
      obtain ⟨inner, written⟩ : ∃ inner, SheetRef.bareChars ⟨some n, first, last⟩ = '[' :: inner :=
        ⟨_, rfl⟩
      rw [written] at chars read ⊢
      have stops : StopsAt isBracketChar ('!' :: rest) := stopsAt_cons (by decide)
      have all : ∀ c ∈ inner, isBracketChar c := fun c mem => chars c (List.mem_cons_of_mem _ mem)
      have scanned : scanAt '[' (inner ++ '!' :: rest)
          = (sheet ⟨some n, first, last⟩, rest) := by
        change scanBracketSheet _ = _
        unfold scanBracketSheet
        rw [takeWhile_run all stops, dropWhile_run all stops]
        simp only [read]
      exact (scan?_of_visible (by decide)).trans (congrArg some scanned)
    | none =>
      cases last with
      | none =>
        have written : SheetRef.bareChars ⟨none, first, none⟩ = first.toList := List.append_nil _
        rw [written]
        exact scan?_word isWord (scanWord_sheet isWord)
      | some last =>
        have written : SheetRef.bareChars ⟨none, first, some last⟩
            = first.toList ++ ':' :: last.toList := rfl
        rw [written, List.append_assoc, List.cons_append]
        exact scan?_word isWord (scanWord_span isWord (SheetName.isWord_of_bare bareLast))

/-- The sheets of a reference are scanned as their text shows them. -/
theorem scan?_written (proper : r.Proper)
    : scan? (r.text.toList ++ '!' :: rest) = some (sheet r.written, rest) := by
  rw [← SheetRef.text_written]
  exact scan?_sheet proper.written SheetRef.le_of_mem_written

/-- A piece may have the sheets of a reference in front. -/
theorem Spells.behindSheets {cs : List Char} {ts : List Token} {sheet : Option SheetRef}
    (h : Spells cs ts) (proper : ∀ r ∈ sheet, r.Proper)
    : Spells (Expr.sheetChars sheet ++ cs)
        (Grammar.sheetTokens (sheet.map SheetRef.written) ++ ts) := by
  intro rest delimited
  have behind : Delimited cs rest := delimited.of_append (Expr.sheetChars sheet)
  cases sheet with
  | none => exact h rest behind
  | some r =>
    rw [Expr.sheetChars, List.append_assoc, List.append_assoc, List.cons_append, List.nil_append,
      scanAll_of_scan? (scan?_written (proper r rfl)), h rest behind]
    rfl

-- Sheets that come from a text

/-- All sheets among the tokens of a text can be told apart in the text that names them. -/
theorem proper_of_mem {ts : List Token} (all : AllProper ts) (mem : sheet r ∈ ts) : r.Proper := by
  induction ts with
  | nil => cases mem
  | cons token ts ih =>
    rcases List.mem_cons.mp mem with rfl | mem
    · exact all.1
    · exact ih all.2 mem

/-- Sheets that were read anywhere in a text and written out again are read as the same sheets of
the same workbook, as long as its index is at most the greatest one that is written as it is. A
greater index is read back as that one.
-/
theorem scan?_text_of_mem_scanAll {cs : List Char} (mem : sheet r ∈ scanAll cs) (rest : List Char)
    : scan? (r.text.toList ++ '!' :: rest)
        = some (sheet { r with book := r.book.map (min SheetRef.maxWrittenBook) }, rest)
      ∧ ((∀ n ∈ r.book, n ≤ SheetRef.maxWrittenBook)
        → scan? (r.text.toList ++ '!' :: rest) = some (sheet r, rest)) := by
  have proper : r.Proper := proper_of_mem (allProper_scanAll cs) mem
  exact ⟨scan?_written proper, scan?_sheet proper⟩

/-- Brackets and quotes within the names, and the greatest index that is written as it is. -/
theorem scan?_text_of_mem_scanAll_quoted
    : let cs := "1+'[2147483647]it''s [1]:[2]'!A1".toList
      let r : SheetRef := { book := some 2147483647, first := "it's [1]", last := some "[2]" }
      sheet r ∈ scanAll cs
        ∧ scan? ((r.text ++ "!").toList ++ []) = some (sheet r, []) := by
  intro cs r
  have mem : sheet r ∈ scanAll cs := by
    have scanned : scanAll cs = [number 1, plus, sheet r, cell "A1"] := by
      with_unfolding_all rfl
    simp [scanned]
  have small : ∀ n ∈ r.book, n ≤ SheetRef.maxWrittenBook := by
    simp [r, SheetRef.maxWrittenBook]
  refine ⟨mem, ?_⟩
  rw [String.toList_append, List.append_assoc]
  exact (scan?_text_of_mem_scanAll mem []).2 small

/-- A greater index is not read back. -/
theorem scan?_text_of_great_index
    : let r : SheetRef := { book := some 2147483648, first := "Sheet1" }
      scanAll "[2147483648]Sheet1!".toList = [sheet r]
        ∧ scan? (r.text ++ "!").toList
          = some (sheet { book := some 2147483647, first := "Sheet1" }, [])
        ∧ scan? (r.text ++ "!").toList ≠ some (sheet r, []) := by
  intro r
  have scanned : scanAll "[2147483648]Sheet1!".toList = [sheet r] := by
    with_unfolding_all rfl
  have mem : sheet r ∈ scanAll "[2147483648]Sheet1!".toList := by
    rw [scanned]
    exact List.mem_singleton_self _
  have proper : r.Proper := proper_of_mem (allProper_scanAll _) mem
  have again : scan? (r.text ++ "!").toList
      = some (sheet { book := some 2147483647, first := "Sheet1" }, []) := by
    rw [String.toList_append]
    exact scan?_written proper
  refine ⟨scanned, again, ?_⟩
  rw [again]
  simp [r]

end Token

end Spreadsheet
