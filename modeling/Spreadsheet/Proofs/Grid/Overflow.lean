import Spreadsheet.Proofs.Date.Overflow
import Spreadsheet.Proofs.Grid.Address

/-! Addresses read in machine words. The reading is written out with the words that its steps are
carried out in, where a result that is too large for its word, or negative, stops everything; none
ever is, since letters are given up as soon as they leave the grid.
-/

namespace Spreadsheet

open Word (Overflow)

namespace Word

/-- The result of one step in words of so many bits without a sign. -/
def unsigned (bits : Nat) (n : Int) : Except Overflow Nat :=
  if 0 ≤ n ∧ n < 2 ^ bits then .ok n.toNat else .error ⟨n⟩

theorem unsigned_eq {bits : Nat} {n : Int} {m : Nat} (same : n = m) (h : m < 2 ^ bits)
    : unsigned bits n = .ok m := by
  subst same
  refine if_pos ⟨Int.natCast_nonneg m, ?_⟩
  exact_mod_cast h

end Word

/-- A reading in words: it may overflow, and it may be refused. -/
abbrev InWords (α : Type) := ExceptT AddressError (Except Overflow) α

/-- Two readings after one another, neither of which overflows. -/
theorem InWords.run_bind {α β : Type} {x : InWords β} {y : Except AddressError β}
    {f : β → InWords α} {g : β → Except AddressError α} (first : x.run = .ok y)
    (second : ∀ b, y = .ok b → (f b).run = .ok (g b))
    : (x >>= f).run = .ok (y >>= g) := by
  rw [ExceptT.run_bind, first]
  cases y with
  | error e => rfl
  | ok b => exact second b rfl

/-- A step that fits its word is one that nothing comes of but its result. -/
theorem InWords.run_step {α : Type} {x : Except Overflow Nat} {m : Nat} (h : x = .ok m)
    (f : Nat → InWords α)
    : ((liftM x : InWords Nat) >>= f).run = (f m).run := by
  rw [h]
  rfl

namespace Column

/-- Reads letters on from a column number counted from one. -/
def ofLettersFromInWords (value : Nat) : List Char → InWords Nat
  | [] => return value
  | c :: rest => do
    if !c.isAlpha then throw (.notALetter c)
    let shifted ← Word.unsigned 32 (value * 26)
    let distance ← Word.unsigned 32 (c.toUpper.toNat - 'A'.toNat)
    let digit ← Word.unsigned 32 (distance + 1)
    let next ← Word.unsigned 32 (shifted + digit)
    if maxColumns < next then
      let col ← Word.unsigned 32 (next - 1)
      throw (.columnOutOfBounds col)
    ofLettersFromInWords next rest

/-- The column that letters of either case stand for, which is kept in a word of 16 bits. -/
def ofLettersInWords (cs : List Char) : InWords Nat := do
  if cs.isEmpty then throw .emptyColumn
  let number ← ofLettersFromInWords 0 cs
  let col ← Word.unsigned 32 (number - 1)
  Word.unsigned 16 col

theorem toUpper_of_isAlpha {c : Char} (alpha : c.isAlpha)
    : 'A'.toNat ≤ c.toUpper.toNat ∧ c.toUpper.toNat ≤ 'Z'.toNat :=
  Unicode.forall_ascii (P := fun c => c.isAlpha → 'A'.toNat ≤ c.toUpper.toNat
    ∧ c.toUpper.toNat ≤ 'Z'.toNat) (by decide) (Unicode.ascii_of_isAlpha alpha) alpha

/-- As long as the letters so far denote a column of the grid, the next step fits its word; by
induction along the letters.
-/
theorem ofLettersFromInWords_eq {value : Nat} (cs : List Char) (start : value ≤ maxColumns)
    : (ofLettersFromInWords value cs).run = .ok (ofLettersFrom value cs) := by
  induction cs generalizing value with
  | nil => rfl
  | cons c rest ih =>
    rw [ofLettersFromInWords, ofLettersFrom]
    split
    · rfl
    · next other =>
      obtain ⟨low, high⟩ := toUpper_of_isAlpha (c := c) (by simpa using other)
      have small : value ≤ 16384 := start
      have above : 65 ≤ c.toUpper.toNat := low
      have below : c.toUpper.toNat ≤ 90 := high
      have next : value * 26 + letterValue c ≤ 16384 * 26 + 26 := by
        simp only [letterValue, Char.reduceToNat]
        omega
      have distance : Word.unsigned 32 (c.toUpper.toNat - 'A'.toNat)
          = .ok (c.toUpper.toNat - 'A'.toNat) :=
        Word.unsigned_eq (by simp only [Char.reduceToNat]; omega) (by omega)
      rw [InWords.run_step (m := value * 26) (Word.unsigned_eq (by simp) (by omega)),
        InWords.run_step distance,
        InWords.run_step (m := letterValue c) (Word.unsigned_eq (by simp [letterValue]) (by omega)),
        InWords.run_step (m := value * 26 + letterValue c) (Word.unsigned_eq (by simp) (by omega))]
      dsimp only
      split
      · next large =>
        rw [InWords.run_step (m := value * 26 + letterValue c - 1)
          (Word.unsigned_eq (by omega) (by omega))]
        rfl
      · next inGrid => exact ih (Nat.not_lt.mp inGrid)

/-- Letters denote a column of at least one. -/
theorem one_le_of_ofLettersFrom {value number : Nat} {cs : List Char}
    (h : ofLettersFrom value cs = .ok number) (nonempty : cs ≠ [] ∨ 1 ≤ value)
    : 1 ≤ number := by
  induction cs generalizing value with
  | nil =>
    cases h
    exact nonempty.resolve_left fun none => none rfl
  | cons c rest ih =>
    rw [ofLettersFrom] at h
    dsimp only at h
    split at h
    · cases h
    · split at h
      · cases h
      · exact ih h (.inr (by rw [letterValue]; omega))

theorem ofLettersInWords_eq (cs : List Char)
    : (ofLettersInWords cs).run = .ok (ofLetters cs) := by
  rw [ofLettersInWords, ofLetters]
  split
  · rfl
  · next some =>
    have nonempty : cs ≠ [] := by simpa using some
    refine InWords.run_bind (ofLettersFromInWords_eq cs (Nat.zero_le _)) fun number found => ?_
    have low := one_le_of_ofLettersFrom found (.inl nonempty)
    have high : number ≤ 16384 := ofLettersFrom_le found (Nat.zero_le _)
    rw [InWords.run_step (m := number - 1) (Word.unsigned_eq (by omega) (by omega)),
      Word.unsigned_eq (m := number - 1) rfl (by omega)]
    rfl

end Column

namespace Address

/-- The row that a row number stands for; one that has no word is malformed. -/
def parseRowInWords (text : String) (digits : List Char) : InWords Nat := do
  if digits.isEmpty || !digits.all Char.isDigit then throw (.malformedRow text)
  let number := Number.Numeral.digitsValue digits
  if rowLimit ≤ number then throw (.malformedRow text)
  if number = 0 then throw (.rowZero text)
  if maxRows < number then
    let row ← Word.unsigned 32 (number - 1)
    throw (.rowOutOfBounds row)
  Word.unsigned 32 (number - 1)

/-- Reads an address with white space around it. -/
def parseInWords (text : String) : InWords Address := do
  let cs := Unicode.trim text.toList
  let trimmed := String.ofList cs
  let (colAbsolute, cs) := splitMark cs
  let letters := cs.takeWhile Char.isAlpha
  if letters.isEmpty then throw (.noColumn trimmed)
  let col ← Column.ofLettersInWords letters
  let (rowAbsolute, digits) := splitMark (cs.dropWhile Char.isAlpha)
  let row ← parseRowInWords trimmed digits
  return { row, col, rowAbsolute, colAbsolute }

theorem parseRowInWords_eq (text : String) (digits : List Char)
    : (parseRowInWords text digits).run = .ok (parseRow text digits) := by
  rw [parseRowInWords, parseRow]
  dsimp only
  split
  · rfl
  · split
    · rfl
    · next word =>
      have word : Number.Numeral.digitsValue digits < 2 ^ 32 := Nat.not_le.mp word
      split
      · rfl
      · next some =>
        have less : Word.unsigned 32 (Number.Numeral.digitsValue digits - 1)
            = .ok (Number.Numeral.digitsValue digits - 1) :=
          Word.unsigned_eq (by omega) (by omega)
        split
        · rw [InWords.run_step less]
          rfl
        · rw [less]
          rfl

/-- No step of reading a text as an address is too large for its word, however long the text is. -/
theorem parseInWords_eq (text : String) : (parseInWords text).run = .ok (parse text) := by
  unfold parseInWords parse
  dsimp only
  split
  · rfl
  · exact InWords.run_bind (Column.ofLettersInWords_eq _) fun col _ =>
      InWords.run_bind (parseRowInWords_eq _ _) fun row _ => rfl

end Address

end Spreadsheet
