import Mathlib.Data.List.Induction
import Mathlib.Data.Nat.Digits.Defs
import Spreadsheet.Proofs.Grid.Address
import Spreadsheet.Proofs.Grid.Overflow
import Spreadsheet.Proofs.Grid.Range

/-! A1 notation from both sides: which texts are addresses and of what, and how an address is
written. Letters are a numeral with digits from 1 to 26, row numbers may have zeros in front.
-/

namespace Spreadsheet

namespace Column

/-- The column number that letters denote, counted from one: the last letter counts ones, the one in
front of it twenty-sixes, and so on.
-/
def number (cs : List Char) : Nat :=
  Nat.ofDigits 26 (cs.reverse.map letterValue)

variable {cs : List Char} {c : Char} {n col : Nat}

@[simp]
theorem number_nil : number [] = 0 :=
  rfl

theorem number_concat (cs : List Char) (c : Char)
    : number (cs ++ [c]) = number cs * 26 + letterValue c := by
  simp [number, Nat.ofDigits_cons]
  omega

/-- Letters count from 1 to 26, and a capital is the letter of what it counts. -/
theorem letterValue_of_isAlpha (alpha : c.isAlpha)
    : 1 ≤ letterValue c ∧ letterValue c ≤ 26 ∧ letter (letterValue c - 1) = c.toUpper :=
  Unicode.forall_ascii (P := fun c => c.isAlpha → 1 ≤ letterValue c ∧ letterValue c ≤ 26
    ∧ letter (letterValue c - 1) = c.toUpper) (by decide) (Unicode.ascii_of_isAlpha alpha) alpha

theorem number_le_append (before cs : List Char) : number before ≤ number (before ++ cs) := by
  induction cs using List.reverseRecOn with
  | nil => simp
  | append_singleton cs c ih =>
    rw [← List.append_assoc, number_concat]
    omega

theorem number_pos (nonempty : cs ≠ []) (alpha : ∀ c ∈ cs, c.isAlpha) : 1 ≤ number cs := by
  induction cs using List.reverseRecOn with
  | nil => exact absurd rfl nonempty
  | append_singleton cs c ih =>
    have last := (letterValue_of_isAlpha (alpha c (by simp))).1
    rw [number_concat]
    omega

/-- The letters of a column are those it was denoted by in upper case, by induction from the last
letter on.
-/
theorem letters_number (nonempty : cs ≠ []) (alpha : ∀ c ∈ cs, c.isAlpha)
    : letters (number cs - 1) = cs.map Char.toUpper := by
  induction cs using List.reverseRecOn with
  | nil => exact absurd rfl nonempty
  | append_singleton cs c ih =>
    obtain ⟨low, high, capital⟩ := letterValue_of_isAlpha (alpha c (by simp))
    have others : ∀ d ∈ cs, d.isAlpha := fun d mem => alpha d (List.mem_append_left _ mem)
    rw [number_concat, letters, List.map_append, List.map_singleton, ← capital]
    rcases eq_or_ne cs [] with rfl | more
    · simp
      omega
    · have pos := number_pos more others
      have quotient : (number cs * 26 + letterValue c - 1) / 26 = number cs := by omega
      have remainder : (number cs * 26 + letterValue c - 1) % 26 = letterValue c - 1 := by omega
      rw [if_neg (by omega), quotient, remainder, ih more others]

/-- Letters are read as the number they denote together with those before them, by induction along
the letters.
-/
theorem ofLettersFrom_eq_ok (before : List Char) (start : number before ≤ maxColumns)
    : ofLettersFrom (number before) cs = .ok n
      ↔ (∀ c ∈ cs, c.isAlpha) ∧ number (before ++ cs) ≤ maxColumns ∧ number (before ++ cs) = n := by
  induction cs generalizing before with
  | nil => simp [ofLettersFrom, start]
  | cons c cs ih =>
    have whole : before ++ c :: cs = before ++ [c] ++ cs := by simp
    rw [ofLettersFrom]
    dsimp only
    split
    · next other => simp_all
    · next alpha =>
      rw [← number_concat, whole]
      split
      · next large =>
        have larger := number_le_append (before ++ [c]) cs
        constructor
        · intro h
          cases h
        · rintro ⟨_, small, _⟩
          omega
      · next small =>
        rw [ih _ (Nat.not_lt.mp small)]
        simp_all

theorem ofLetters_eq_ok
    : ofLetters cs = .ok col
      ↔ (cs ≠ [] ∧ ∀ c ∈ cs, c.isAlpha) ∧ number cs ≤ maxColumns ∧ col = number cs - 1 := by
  rw [ofLetters]
  split
  · next none => simp_all
  · next some =>
    have nonempty : cs ≠ [] := by simpa using some
    rw [except_map_eq_ok]
    have read (n : Nat)
        : ofLettersFrom 0 cs = .ok n
          ↔ (∀ c ∈ cs, c.isAlpha) ∧ number ([] ++ cs) ≤ maxColumns ∧ number ([] ++ cs) = n :=
      ofLettersFrom_eq_ok [] (Nat.zero_le _)
    simp only [read, List.nil_append]
    constructor
    · rintro ⟨n, ⟨alpha, le, rfl⟩, rfl⟩
      exact ⟨⟨nonempty, alpha⟩, le, rfl⟩
    · rintro ⟨⟨_, alpha⟩, le, rfl⟩
      exact ⟨_, ⟨alpha, le, rfl⟩, rfl⟩

end Column

-- Row numbers

namespace Number.Numeral

variable {digits : List Char} {c : Char}

/-- Without the zeros in front, digits are those of the number they denote, by induction from the
last digit on.
-/
theorem dropWhile_zero (digit : ∀ c ∈ digits, c.isDigit)
    : digits.dropWhile (· == '0')
      = if Nat.ofDigitChars 10 digits 0 = 0 then []
        else Nat.toDigits 10 (Nat.ofDigitChars 10 digits 0) := by
  induction digits using List.reverseRecOn with
  | nil => rfl
  | append_singleton digits c ih =>
    obtain ⟨low, same, zero⟩ := digitChar_of_isDigit (digit c (by simp))
    have others := ih fun d mem => digit d (List.mem_append_left _ mem)
    have value : Nat.ofDigitChars 10 (digits ++ [c]) 0
        = 10 * Nat.ofDigitChars 10 digits 0 + (c.toNat - '0'.toNat) := by
      rw [Nat.ofDigitChars_append, Nat.ofDigitChars_cons, Nat.ofDigitChars_nil]
    rw [List.dropWhile_append, others, value]
    rcases Nat.eq_zero_or_pos (Nat.ofDigitChars 10 digits 0) with none | some
    · rw [none, if_pos rfl, Nat.mul_zero, Nat.zero_add]
      by_cases front : c = '0'
      · simp [front]
      · rw [if_neg fun h => front (zero.mp h), Nat.toDigits_of_lt_base low, same]
        simp [front]
    · have more : ¬(10 * Nat.ofDigitChars 10 digits 0 + (c.toNat - '0'.toNat) = 0) := by omega
      rw [if_neg (Nat.ne_of_gt some), if_neg more,
        ← Nat.toDigits_append_toDigits (by decide) some low, Nat.toDigits_of_lt_base low, same]
      simp [Nat.toDigits_ne_nil]

end Number.Numeral

namespace Address

theorem parseRow_eq_ok {text : String} {digits : List Char} {row : Nat}
    : parseRow text digits = .ok row
      ↔ (digits ≠ [] ∧ ∀ c ∈ digits, c.isDigit)
        ∧ (1 ≤ Nat.ofDigitChars 10 digits 0 ∧ Nat.ofDigitChars 10 digits 0 ≤ maxRows)
        ∧ row = Nat.ofDigitChars 10 digits 0 - 1 := by
  have form : (digits.isEmpty || !digits.all Char.isDigit) = false
      ↔ digits ≠ [] ∧ ∀ c ∈ digits, c.isDigit := by
    simp
  rw [← Number.Numeral.digitsValue_eq, parseRow, ← form]
  dsimp only
  split
  · next broken => simp_all
  · next whole =>
    have whole := eq_false_of_ne_true whole
    split
    · next large =>
      simp only [maxRows, rowLimit] at large ⊢
      constructor
      · intro h
        cases h
      · omega
    · split
      · next zero => simp [zero]
      · next some =>
        split
        · next large =>
          constructor
          · intro h
            cases h
          · omega
        · next small =>
          constructor
          · intro h
            cases h
            exact ⟨whole, ⟨Nat.pos_of_ne_zero some, Nat.not_lt.mp small⟩, rfl⟩
          · rintro ⟨_, _, rfl⟩
            rfl

/-- The parts of a text that has the form of an address. -/
structure Spelling where
  colAbsolute : Bool
  letters : List Char
  rowAbsolute : Bool
  digits : List Char
  letters_ne_nil : letters ≠ []
  alpha : ∀ c ∈ letters, c.isAlpha
  digits_ne_nil : digits ≠ []
  digit : ∀ c ∈ digits, c.isDigit

namespace Spelling

/-- The text itself. -/
def chars (s : Spelling) : List Char :=
  mark s.colAbsolute ++ (s.letters ++ (mark s.rowAbsolute ++ s.digits))

/-- The column that is denoted, counted from one. -/
def column (s : Spelling) : Nat :=
  Column.number s.letters

/-- The row that is denoted, counted from one. -/
def row (s : Spelling) : Nat :=
  Nat.ofDigitChars 10 s.digits 0

/-- The column and the row are those of a cell of the grid. -/
def InGrid (s : Spelling) : Prop :=
  s.column ≤ maxColumns ∧ 1 ≤ s.row ∧ s.row ≤ maxRows

/-- The address that is denoted. -/
def address (s : Spelling) : Address where
  row := s.row - 1
  col := s.column - 1
  rowAbsolute := s.rowAbsolute
  colAbsolute := s.colAbsolute

/-- The text with its letters in upper case and no zeros in front of its row number. -/
def standard (s : Spelling) : String :=
  String.ofList (mark s.colAbsolute ++ (s.letters.map Char.toUpper
    ++ (mark s.rowAbsolute ++ s.digits.dropWhile (· == '0'))))

/-- The address that is denoted is written in the standard way. -/
theorem text_address {s : Spelling} (inGrid : s.InGrid) : s.address.text = s.standard := by
  obtain ⟨_, first, _⟩ := inGrid
  have row : s.row - 1 + 1 = s.row := Nat.sub_add_cancel first
  have digits : s.digits.dropWhile (· == '0') = Nat.toDigits 10 s.row := by
    rw [Number.Numeral.dropWhile_zero s.digit, if_neg]
    · rfl
    · exact Nat.ne_of_gt first
  have letters : Column.letters (s.column - 1) = s.letters.map Char.toUpper :=
    Column.letters_number s.letters_ne_nil s.alpha
  rw [text, chars_eq, standard, digits, ← letters]
  simp only [address, row]

theorem head?_ne_mark (s : Spelling) (cs : List Char) : (s.letters ++ cs).head? ≠ some '$' := by
  obtain ⟨c, rest, found⟩ := List.exists_cons_of_ne_nil s.letters_ne_nil
  have letter : c.isAlpha := s.alpha c (by simp [found])
  rw [found]
  intro same
  cases same
  exact absurd letter (by decide)

/-- A text of the form of an address is read part by part. -/
theorem parse_eq {text : String} {s : Spelling} (form : Unicode.trim text.toList = s.chars)
    : parse text = do
        let col ← Column.ofLetters s.letters
        let row ← parseRow (String.ofList s.chars) s.digits
        return { row, col, rowAbsolute := s.rowAbsolute, colAbsolute := s.colAbsolute } := by
  have column := splitMark_mark s.colAbsolute (s.head?_ne_mark (mark s.rowAbsolute ++ s.digits))
  have row := splitMark_mark s.rowAbsolute (head?_digits_ne_mark s.digit)
  have stops := stopsAt_isAlpha s.rowAbsolute s.digit
  have nonempty : s.letters.isEmpty = false := by simpa using s.letters_ne_nil
  unfold parse
  dsimp only
  rw [form]
  unfold chars
  rw [column]
  dsimp only
  rw [Text.takeWhile_run s.alpha stops, Text.dropWhile_run s.alpha stops, row, nonempty]
  rfl

end Spelling

theorem mark_splitMark (cs : List Char) : mark (splitMark cs).1 ++ (splitMark cs).2 = cs := by
  unfold splitMark
  split <;> rfl

/-- A text is an address just if it has the form of one that lies in the grid. -/
theorem parse_eq_ok {text : String} {a : Address}
    : parse text = .ok a
      ↔ ∃ s : Spelling, Unicode.trim text.toList = s.chars ∧ s.InGrid ∧ a = s.address := by
  constructor
  · intro h
    unfold parse at h
    dsimp only at h
    split at h
    · cases h
    · next letters =>
      obtain ⟨col, readCol, h⟩ := except_bind_eq_ok.mp h
      obtain ⟨row, readRow, h⟩ := except_bind_eq_ok.mp h
      obtain ⟨⟨some, alpha⟩, inColumns, rfl⟩ := Column.ofLetters_eq_ok.mp readCol
      obtain ⟨⟨given, digit⟩, inRows, rfl⟩ := parseRow_eq_ok.mp readRow
      cases h
      refine ⟨⟨_, _, _, _, some, alpha, given, digit⟩, ?_, ⟨inColumns, inRows⟩, rfl⟩
      simp only [Spelling.chars]
      rw [mark_splitMark, List.takeWhile_append_dropWhile, mark_splitMark]
  · rintro ⟨s, form, ⟨inColumns, inRows⟩, rfl⟩
    have readCol : Column.ofLetters s.letters = .ok (s.column - 1) :=
      Column.ofLetters_eq_ok.mpr ⟨⟨s.letters_ne_nil, s.alpha⟩, inColumns, rfl⟩
    have readRow : parseRow (String.ofList s.chars) s.digits = .ok (s.row - 1) :=
      parseRow_eq_ok.mpr ⟨⟨s.digits_ne_nil, s.digit⟩, inRows, rfl⟩
    rw [s.parse_eq form, readCol, readRow]
    rfl

end Address

-- Ranges

theorem Unicode.trim_of_visible {cs : List Char} (visible : ∀ c ∈ cs, isWhiteSpace c = false)
    : trim cs = cs :=
  trim_eq_self (fun c mem => visible c (List.mem_of_mem_head? mem))
    (fun c mem => visible c (List.mem_of_mem_getLast? mem))

/-- Every range of the grid is read back from its own text. -/
theorem Range.parse_text {r : Range} (first : r.first.position.InGrid)
    (last : r.last.position.InGrid)
    : parse r.text = .ok r := by
  have readFirst : Address.parse (String.ofList r.first.chars) = .ok r.first :=
    Address.parse_text first
  have readLast : Address.parse (String.ofList r.last.chars) = .ok r.last :=
    Address.parse_text last
  have colon : ':' ∉ r.first.chars := r.first.not_mem_chars (by decide)
  by_cases same : r.first = r.last
  · have trimmed : Unicode.trim r.first.chars = r.first.chars :=
      Unicode.trim_of_visible fun c mem => Address.not_isWhiteSpace mem
    rw [parse, text, if_pos same, Address.text, String.toList_ofList, trimmed,
      Text.cutAt_of_not_mem colon]
    dsimp only
    rw [readFirst]
    obtain ⟨a, b, rows, cols⟩ := r
    obtain rfl : a = b := same
    rfl
  · have chars : r.cornerText.toList = r.first.chars ++ ':' :: r.last.chars := by
      simp [cornerText, Address.text]
    have trimmed : Unicode.trim (r.first.chars ++ ':' :: r.last.chars)
        = r.first.chars ++ ':' :: r.last.chars := by
      refine Unicode.trim_of_visible fun c mem => ?_
      rcases List.mem_append.mp mem with mem | mem
      · exact Address.not_isWhiteSpace mem
      · rcases List.mem_cons.mp mem with rfl | mem
        · decide
        · exact Address.not_isWhiteSpace mem
    rw [parse, text, if_neg same, chars, trimmed, Text.cutAt_append _ colon]
    dsimp only
    rw [readFirst, readLast]
    exact congrArg Except.ok (spanning_corners r)

/-- A1 notation names each address and each range of the grid. A text is read as an address just if
it has the form of one that lies in the grid; the address is then written as the text is, in upper
case and without zeros in front of the row number. No step of reading it overflows.
-/
theorem Address.notation_faithful
    : (∀ a : Address, a.position.InGrid → parse a.text = .ok a)
      ∧ (∀ r : Range,
          r.first.position.InGrid → r.last.position.InGrid → Range.parse r.text = .ok r)
      ∧ (∀ text a,
          parse text = .ok a
            ↔ ∃ s : Spelling,
                Unicode.trim text.toList = s.chars
                ∧ s.InGrid
                ∧ a = s.address
                ∧ a.text = s.standard)
      ∧ ∀ text, (parseInWords text).run = .ok (parse text) := by
  refine ⟨fun a => parse_text, fun r => Range.parse_text, fun text a => ?_, parseInWords_eq⟩
  rw [parse_eq_ok]
  constructor
  · rintro ⟨s, form, inGrid, rfl⟩
    exact ⟨s, form, inGrid, rfl, Spelling.text_address inGrid⟩
  · rintro ⟨s, form, inGrid, same, _⟩
    exact ⟨s, form, inGrid, same⟩

/-- The last column with a row, written and read in more than one way. -/
theorem Address.notation_faithful_last_column
    : let a : Address := { row := 6, col := 16383, colAbsolute := true }
      let r : Range := .spanning { row := 2, col := 1 } a
      a.position.InGrid
        ∧ parse a.text = .ok a
        ∧ Range.parse r.text = .ok r
        ∧ parse " $xFd007 " = .ok a := by
  intro a r
  have inGrid : a.position.InGrid := ⟨by decide, by decide⟩
  obtain ⟨addresses, ranges, accepts, _⟩ := Address.notation_faithful
  refine ⟨inGrid, addresses a inGrid,
    ranges r ⟨by decide, by decide⟩ ⟨by decide, by decide⟩, (accepts _ a).mpr ?_⟩
  let s : Spelling := {
    colAbsolute := true
    letters := ['x', 'F', 'd']
    rowAbsolute := false
    digits := ['0', '0', '7']
    letters_ne_nil := by simp
    alpha := List.all_eq_true.mp rfl
    digits_ne_nil := by simp
    digit := List.all_eq_true.mp rfl }
  have inGrid : s.InGrid := ⟨by decide +kernel, by decide +kernel, by decide +kernel⟩
  have same : a = s.address := by decide +kernel
  exact ⟨s, by decide +kernel, inGrid, same, same ▸ Spelling.text_address inGrid⟩

end Spreadsheet
