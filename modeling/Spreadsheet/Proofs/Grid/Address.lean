import Spreadsheet.Grid.Address
import Spreadsheet.Proofs.Number.Numeral
import Spreadsheet.Proofs.Outcome
import Spreadsheet.Proofs.Unicode.WhiteSpace

/-! Addresses that can be read lie in the grid, and every address of the grid reads back from its
own text.
-/

namespace Spreadsheet

namespace Column

/-- Letters are read up to the last column and no further, by induction on the letters. -/
theorem ofLettersFrom_le {value col : Nat} {cs : List Char}
    (h : ofLettersFrom value cs = .ok col) (start : value ≤ maxColumns)
    : col ≤ maxColumns := by
  induction cs generalizing value with
  | nil =>
    cases h
    exact start
  | cons c rest ih =>
    rw [ofLettersFrom] at h
    split at h
    · cases h
    · dsimp only at h
      split at h
      · cases h
      · exact ih h (by omega)

theorem ofLetters_lt {col : Nat} {cs : List Char} (h : ofLetters cs = .ok col)
    : col < maxColumns := by
  rw [ofLetters] at h
  split at h
  · cases h
  · obtain ⟨number, read, rfl⟩ := except_map_eq_ok.mp h
    have : number ≤ maxColumns := ofLettersFrom_le read (Nat.zero_le _)
    simp only [maxColumns] at this ⊢
    omega

-- Columns by their letters

theorem isAlpha_letter {n : Nat} (h : n < 26) : (letter n).isAlpha := by
  have all : ∀ n < 26, (letter n).isAlpha := by decide
  exact all n h

theorem letterValue_letter {n : Nat} (h : n < 26) : letterValue (letter n) = n + 1 := by
  have all : ∀ n < 26, letterValue (letter n) = n + 1 := by decide
  exact all n h

theorem isAlpha_of_mem_letters {col : Nat} {c : Char} (h : c ∈ letters col) : c.isAlpha := by
  induction col using letters.induct with
  | case1 col small =>
    rw [letters, if_pos small] at h
    obtain rfl := List.mem_singleton.mp h
    exact isAlpha_letter small
  | case2 col large ih =>
    rw [letters, if_neg large] at h
    rcases List.mem_append.mp h with mem | mem
    · exact ih mem
    · obtain rfl := List.mem_singleton.mp mem
      exact isAlpha_letter (Nat.mod_lt _ (by decide))

theorem letters_ne_nil (col : Nat) : letters col ≠ [] := by
  rw [letters]
  split <;> simp

theorem exists_letters (col : Nat) : ∃ c cs, letters col = c :: cs ∧ c.isAlpha := by
  obtain ⟨c, cs, found⟩ := List.exists_cons_of_ne_nil (letters_ne_nil col)
  have mem : c ∈ letters col := by simp [found]
  exact ⟨c, cs, found, isAlpha_of_mem_letters mem⟩

/-- No column of the grid takes more than three letters. -/
theorem length_letters_le {col : Nat} (h : col < maxColumns) : (letters col).length ≤ 3 := by
  have one {n : Nat} (small : n < 26) : (letters n).length = 1 := by simp [letters, small]
  have two {n : Nat} (small : n < 702) : (letters n).length ≤ 2 := by
    rw [letters]
    split
    · simp
    · simp [one (show n / 26 - 1 < 26 by omega)]
  rw [letters]
  split
  · simp
  · have := two (show col / 26 - 1 < 702 by simp only [maxColumns] at h; omega)
    simp
    omega

theorem ofLettersFrom_append (value : Nat) (cs ds : List Char)
    : ofLettersFrom value (cs ++ ds)
      = ofLettersFrom value cs >>= fun value => ofLettersFrom value ds := by
  induction cs generalizing value with
  | nil => rfl
  | cons c cs ih =>
    rw [List.cons_append, ofLettersFrom, ofLettersFrom]
    dsimp only
    split
    · rfl
    · split
      · rfl
      · exact ih _

/-- The letters of a column count it from one, by induction along the letters. -/
theorem ofLettersFrom_letters {col : Nat} (h : col < maxColumns)
    : ofLettersFrom 0 (letters col) = .ok (col + 1) := by
  induction col using letters.induct with
  | case1 col small =>
    have next : 0 * 26 + (col + 1) = col + 1 := by omega
    have inGrid : ¬maxColumns < col + 1 := by omega
    rw [letters, if_pos small, ofLettersFrom, isAlpha_letter small, letterValue_letter small, next]
    simp only [Bool.not_true, Bool.false_eq_true, if_false, if_neg inGrid, ofLettersFrom]
  | case2 col large ih =>
    have digit : col % 26 < 26 := Nat.mod_lt _ (by decide)
    have next : (col / 26 - 1 + 1) * 26 + (col % 26 + 1) = col + 1 := by omega
    have inGrid : ¬maxColumns < col + 1 := by omega
    rw [letters, if_neg large, ofLettersFrom_append, ih (by omega)]
    change ofLettersFrom _ [letter (col % 26)] = _
    rw [ofLettersFrom, isAlpha_letter digit, letterValue_letter digit, next]
    simp only [Bool.not_true, Bool.false_eq_true, if_false, if_neg inGrid, ofLettersFrom]

theorem ofLetters_letters {col : Nat} (h : col < maxColumns)
    : ofLetters (letters col) = .ok col := by
  rw [ofLetters, if_neg (by simpa using letters_ne_nil col), ofLettersFrom_letters h]
  rfl

end Column

namespace Address

theorem parseRow_lt {text : String} {digits : List Char} {row : Nat}
    (h : parseRow text digits = .ok row)
    : row < maxRows := by
  rw [parseRow] at h
  split at h
  · cases h
  · dsimp only at h
    split at h
    · cases h
    · split at h
      · cases h
      · split at h
        · cases h
        · cases h
          omega

/-- An address that can be read lies in the grid. -/
theorem inGrid_of_parse {text : String} {a : Address} (h : parse text = .ok a)
    : a.position.InGrid := by
  unfold parse at h
  dsimp only at h
  split at h
  · cases h
  · obtain ⟨col, readCol, h⟩ := except_bind_eq_ok.mp h
    obtain ⟨row, readRow, h⟩ := except_bind_eq_ok.mp h
    cases h
    exact ⟨parseRow_lt readRow, Column.ofLetters_lt readCol⟩

-- The text of an address

/-- The `$` in front of a part that is absolute. -/
def mark (absolute : Bool) : List Char :=
  if absolute then ['$'] else []

theorem chars_eq (a : Address)
    : a.chars = mark a.colAbsolute
      ++ (Column.letters a.col ++ (mark a.rowAbsolute ++ Nat.toDigits 10 (a.row + 1))) := by
  simp only [chars, mark, List.append_assoc]

theorem splitMark_mark (absolute : Bool) {cs : List Char} (h : cs.head? ≠ some '$')
    : splitMark (mark absolute ++ cs) = (absolute, cs) := by
  cases absolute with
  | true => rfl
  | false =>
    cases cs with
    | nil => rfl
    | cons c cs =>
      have other : c ≠ '$' := by simpa using h
      simp [mark, splitMark, other]

theorem parseRow_toDigits {row : Nat} (text : String) (h : row < maxRows)
    : parseRow text (Nat.toDigits 10 (row + 1)) = .ok row := by
  have limit : ¬rowLimit ≤ row + 1 := by
    simp only [maxRows, rowLimit] at h ⊢
    omega
  have inGrid : ¬maxRows < row + 1 := by omega
  simp [parseRow, Nat.toDigits_ne_nil, Number.Numeral.all_isDigit_toDigits,
    Number.Numeral.digitsValue_toDigits, limit, inGrid]

theorem head?_digits_ne_mark {digits : List Char} (digit : ∀ c ∈ digits, c.isDigit)
    : digits.head? ≠ some '$' := by
  intro same
  exact absurd (digit '$' (List.mem_of_mem_head? same)) (by decide)

theorem isDigit_rowDigits (a : Address) : ∀ c ∈ Nat.toDigits 10 (a.row + 1), c.isDigit :=
  fun _ mem => Number.Numeral.isDigit_of_mem_toDigits mem

theorem head?_letters_ne_mark (col : Nat) (cs : List Char)
    : (Column.letters col ++ cs).head? ≠ some '$' := by
  obtain ⟨c, _, found, letter⟩ := Column.exists_letters col
  rw [found]
  intro same
  cases same
  exact absurd letter (by decide)

/-- Behind the letters of an address no letter follows. -/
theorem stopsAt_isAlpha (absolute : Bool) {digits : List Char} (digit : ∀ c ∈ digits, c.isDigit)
    : Text.StopsAt Char.isAlpha (mark absolute ++ digits) := by
  intro c next
  cases absolute with
  | true =>
    cases next
    rfl
  | false =>
    exact Unicode.forall_digit (P := fun c => c.isAlpha = false) (by decide)
      (digit c (List.mem_of_mem_head? next))

theorem takeWhile_letters (a : Address)
    : (Column.letters a.col ++ (mark a.rowAbsolute ++ Nat.toDigits 10 (a.row + 1))).takeWhile
        Char.isAlpha
      = Column.letters a.col :=
  Text.takeWhile_run (fun _ mem => Column.isAlpha_of_mem_letters mem)
    (stopsAt_isAlpha _ a.isDigit_rowDigits)

theorem dropWhile_letters (a : Address)
    : (Column.letters a.col ++ (mark a.rowAbsolute ++ Nat.toDigits 10 (a.row + 1))).dropWhile
        Char.isAlpha
      = mark a.rowAbsolute ++ Nat.toDigits 10 (a.row + 1) :=
  Text.dropWhile_run (fun _ mem => Column.isAlpha_of_mem_letters mem)
    (stopsAt_isAlpha _ a.isDigit_rowDigits)

theorem char_cases {a : Address} {c : Char} (h : c ∈ a.chars)
    : c = '$' ∨ c.isAlpha ∨ c.isDigit := by
  have marked {absolute : Bool} (mem : c ∈ mark absolute) : c = '$' := by
    cases absolute with
    | true => exact List.mem_singleton.mp mem
    | false => cases mem
  rw [chars_eq] at h
  rcases List.mem_append.mp h with mem | mem
  · exact .inl (marked mem)
  · rcases List.mem_append.mp mem with mem | mem
    · exact .inr (.inl (Column.isAlpha_of_mem_letters mem))
    · rcases List.mem_append.mp mem with mem | mem
      · exact .inl (marked mem)
      · exact .inr (.inr (Number.Numeral.isDigit_of_mem_toDigits mem))

theorem not_mem_chars (a : Address) {c : Char} (other : ¬(c = '$' ∨ c.isAlpha ∨ c.isDigit))
    : c ∉ a.chars :=
  fun mem => other (char_cases mem)

theorem not_isWhiteSpace {a : Address} {c : Char} (h : c ∈ a.chars)
    : Unicode.isWhiteSpace c = false := by
  rcases char_cases h with rfl | letter | digit
  · decide
  · exact Unicode.not_isWhiteSpace_of_isAlphanumeric (Unicode.isAlphanumeric_of_isAlpha letter)
  · exact Unicode.not_isWhiteSpace_of_isAlphanumeric (Unicode.isAlphanumeric_of_isDigit digit)

/-- Every address of the grid is read back from its own text. -/
theorem parse_text {a : Address} (inGrid : a.position.InGrid) : parse a.text = .ok a := by
  have trimmed : Unicode.trim a.chars = a.chars :=
    Unicode.trim_eq_self (fun c mem => not_isWhiteSpace (List.mem_of_mem_head? mem))
      (fun c mem => not_isWhiteSpace (List.mem_of_mem_getLast? mem))
  have column := splitMark_mark a.colAbsolute
    (head?_letters_ne_mark a.col (mark a.rowAbsolute ++ Nat.toDigits 10 (a.row + 1)))
  have row := splitMark_mark a.rowAbsolute (head?_digits_ne_mark a.isDigit_rowDigits)
  have nonempty : (Column.letters a.col).isEmpty = false := by
    simpa using Column.letters_ne_nil a.col
  unfold parse text
  dsimp only
  rw [String.toList_ofList, trimmed, chars_eq, column]
  dsimp only
  rw [takeWhile_letters, dropWhile_letters, row, nonempty]
  change (Column.ofLetters (Column.letters a.col) >>= fun col =>
    parseRow _ (Nat.toDigits 10 (a.row + 1)) >>= fun row => pure _) = _
  rw [Column.ofLetters_letters (show a.col < maxColumns from inGrid.2)]
  change (parseRow _ (Nat.toDigits 10 (a.row + 1)) >>= fun row => pure _) = _
  rw [parseRow_toDigits _ (show a.row < maxRows from inGrid.1)]
  rfl

/-- The characters look like an address: one to three letters and then digits, with or without a
`$` in front of either.
-/
def HasShape (cs : List Char) : Prop :=
  ∃ colAbsolute letters rowAbsolute digits,
    cs = mark colAbsolute ++ (letters ++ (mark rowAbsolute ++ digits))
      ∧ (1 ≤ letters.length ∧ letters.length ≤ 3 ∧ ∀ c ∈ letters, c.isAlpha)
      ∧ digits ≠ [] ∧ ∀ c ∈ digits, c.isDigit

theorem hasCellShape_of_hasShape {cs : List Char} (h : HasShape cs) : Token.hasCellShape cs := by
  obtain ⟨colAbsolute, letters, rowAbsolute, digits, rfl, ⟨one, three, alpha⟩, nonempty, digit⟩ := h
  have noMark : (letters ++ (mark rowAbsolute ++ digits)).head? ≠ some '$' := by
    obtain ⟨c, letters, rfl⟩ := List.exists_cons_of_length_pos one
    intro same
    cases same
    exact absurd (alpha '$' List.mem_cons_self) (by decide)
  have column := splitMark_mark colAbsolute noMark
  have row := splitMark_mark rowAbsolute (head?_digits_ne_mark digit)
  have stops := stopsAt_isAlpha rowAbsolute digit
  rw [Token.hasCellShape, column]
  dsimp only
  rw [Text.takeWhile_run alpha stops, Text.dropWhile_run alpha stops, row]
  simp only [one, three, decide_true, Bool.true_and, Bool.and_eq_true, Bool.not_eq_true',
    List.isEmpty_eq_false_iff, List.all_eq_true]
  exact ⟨nonempty, digit⟩

theorem hasCellShape_chars {a : Address} (inGrid : a.position.InGrid)
    : Token.hasCellShape a.chars := by
  refine hasCellShape_of_hasShape ⟨a.colAbsolute, Column.letters a.col, a.rowAbsolute,
    Nat.toDigits 10 (a.row + 1), chars_eq a, ⟨?_, Column.length_letters_le inGrid.2, ?_⟩,
    Nat.toDigits_ne_nil, a.isDigit_rowDigits⟩
  · exact List.length_pos_iff.mpr (Column.letters_ne_nil a.col)
  · exact fun c mem => Column.isAlpha_of_mem_letters mem

end Address

end Spreadsheet
