import Spreadsheet.Formula.Scan
import Spreadsheet.Proofs.Text.Pieces
import Spreadsheet.Proofs.Unicode.Character

/-! Numerals: the digits of a number read as that number, and a text that reads as a number is
scanned to its end.
-/

namespace Spreadsheet

namespace Number.Numeral

theorem digitsValue_eq (digits : List Char)
    : digitsValue digits = Nat.ofDigitChars 10 digits 0 := by
  rw [Nat.ofDigitChars_eq_foldl]
  rfl

theorem digitChar_of_isDigit {c : Char} (digit : c.isDigit)
    : c.toNat - '0'.toNat < 10
      ∧ (c.toNat - '0'.toNat).digitChar = c
      ∧ (c.toNat - '0'.toNat = 0 ↔ c = '0') :=
  Unicode.forall_digit (P := fun c => c.toNat - '0'.toNat < 10
    ∧ (c.toNat - '0'.toNat).digitChar = c ∧ (c.toNat - '0'.toNat = 0 ↔ c = '0')) (by decide) digit

theorem digitsValue_toDigits (n : Nat) : digitsValue (Nat.toDigits 10 n) = n := by
  have value := Nat.ofDigitChars_ten_toDigits (n := n)
  rwa [Nat.ofDigitChars_eq_foldl] at value

theorem isDigit_of_mem_toDigits {n : Nat} {c : Char} (h : c ∈ Nat.toDigits 10 n) : c.isDigit :=
  Nat.isDigit_of_mem_toDigits (by decide) (by decide) h

theorem exists_toDigits (n : Nat) : ∃ c cs, Nat.toDigits 10 n = c :: cs ∧ c.isDigit := by
  obtain ⟨c, cs, digits⟩ := List.exists_cons_of_ne_nil (Nat.toDigits_ne_nil (n := n) (b := 10))
  exact ⟨c, cs, digits, isDigit_of_mem_toDigits (n := n) (by simp [digits])⟩

theorem all_isDigit_toDigits (n : Nat) : (Nat.toDigits 10 n).all Char.isDigit :=
  List.all_eq_true.mpr fun _ mem => isDigit_of_mem_toDigits mem

/-- An exponent has a mark, and digits behind an optional sign. -/
theorem exponent?_cases {cs : List Char} {value : Int} (h : exponent? cs = some value)
    : cs = []
      ∨ ∃ mark sign digits, cs = mark :: (sign ++ digits) ∧ (mark = 'e' ∨ mark = 'E')
        ∧ (sign = [] ∨ sign = ['-'] ∨ sign = ['+']) ∧ digits ≠ [] ∧ ∀ c ∈ digits, c.isDigit := by
  cases cs with
  | nil => exact .inl rfl
  | cons mark rest =>
    refine .inr ?_
    dsimp only [exponent?] at h
    split at h
    · next isMark =>
      have marked : mark = 'e' ∨ mark = 'E' := by simpa using isMark
      have read {digits : List Char} {given : Int}
          (h : (if digits.isEmpty || !digits.all Char.isDigit then none else some given)
            = some value)
          : digits ≠ [] ∧ ∀ c ∈ digits, c.isDigit := by
        split at h
        · cases h
        · next nonempty => simpa [not_or] using nonempty
      split at h
      · exact ⟨mark, ['-'], _, rfl, marked, by simp, read h⟩
      · exact ⟨mark, ['+'], _, rfl, marked, by simp, read h⟩
      · exact ⟨mark, [], _, rfl, marked, by simp, read h⟩
    · cases h

end Number.Numeral

namespace Token

open Text Number

variable {cs rest : List Char} {x : Float}

/-- Characters that a numeral can have inside. -/
def isNumeralChar (c : Char) : Bool :=
  c.isDigit || c = '.' || c = 'e' || c = 'E'

theorem stopsAt_isDigit (stops : StopsAt isNumeralChar rest) : StopsAt Char.isDigit rest := by
  intro c next
  have := stops c next
  simp only [isNumeralChar, Bool.or_eq_false_iff] at this
  exact this.1.1.1

theorem splitPoint_append (cs : List Char) (digits : StopsAt Char.isDigit rest)
    (point : rest.head? ≠ some '.')
    : splitPoint (cs ++ rest) = ((splitPoint cs).1, (splitPoint cs).2 ++ rest) := by
  cases cs with
  | nil =>
    cases rest with
    | nil => rfl
    | cons c rest =>
      have other : c ≠ '.' := by simpa using point
      simp [splitPoint, other]
  | cons c cs =>
    by_cases isPoint : c = '.'
    · subst isPoint
      simp only [List.cons_append, splitPoint, takeWhile_append_of_stopsAt cs digits,
        dropWhile_append_of_stopsAt cs digits]
    · simp [splitPoint, isPoint]

-- The parts of a number make up the whole of it

theorem splitPoint_joined (cs : List Char) : (splitPoint cs).1 ++ (splitPoint cs).2 = cs := by
  unfold splitPoint
  split
  · simp
  · rfl

theorem splitSign_joined (cs : List Char) : (splitSign cs).1 ++ (splitSign cs).2 = cs := by
  unfold splitSign
  split <;> rfl

theorem splitExponent_joined (cs : List Char)
    : (splitExponent cs).1 ++ (splitExponent cs).2 = cs := by
  unfold splitExponent
  split
  · next c cs =>
    split
    · simp [splitSign_joined]
    · rfl
  · rfl

/-- A whole exponent is cut off as such. -/
theorem splitExponent_append {value : Int} (read : Numeral.exponent? cs = some value)
    (stops : StopsAt isNumeralChar rest)
    : splitExponent (cs ++ rest) = (cs, rest) := by
  have digits : StopsAt Char.isDigit rest := stopsAt_isDigit stops
  rcases Numeral.exponent?_cases read with rfl | ⟨mark, sign, ds, rfl, isMark, isSign, some_, all⟩
  · cases rest with
    | nil => rfl
    | cons c rest =>
      have := stops c rfl
      simp only [isNumeralChar, Bool.or_eq_false_iff, decide_eq_false_iff_not] at this
      simp [splitExponent, this]
  · have cut : splitSign (sign ++ ds ++ rest) = (sign, ds ++ rest) := by
      rcases isSign with rfl | rfl | rfl
      · obtain ⟨d, ds, rfl⟩ := List.exists_cons_of_ne_nil some_
        have isDigit := all d List.mem_cons_self
        have noPlus : d ≠ '+' := by
          intro same
          subst same
          cases isDigit
        have noMinus : d ≠ '-' := by
          intro same
          subst same
          cases isDigit
        simp [splitSign, noPlus, noMinus]
      · rfl
      · rfl
    rw [List.cons_append, splitExponent, if_pos (by simpa using isMark), cut]
    simp only [takeWhile_run all digits, dropWhile_run all digits, List.cons_append]

theorem splitFraction_snd (cs : List Char)
    : (Numeral.splitFraction cs).2 = (splitPoint cs).2 := by
  cases cs with
  | nil => rfl
  | cons c cs =>
    by_cases isPoint : c = '.'
    · subst isPoint
      rfl
    · simp [splitPoint, Numeral.splitFraction, isPoint]

theorem exponent?_of_toFloat? (read : Numeral.toFloat? cs = some x)
    : ∃ value, Numeral.exponent? (splitPoint (cs.dropWhile Char.isDigit)).2 = some value := by
  unfold Numeral.toFloat? at read
  obtain ⟨d, chars, _⟩ := Option.bind_eq_some_iff.mp read
  unfold Numeral.ofChars? at chars
  dsimp only at chars
  split at chars
  · cases chars
  · obtain ⟨value, exponent, _⟩ := Option.bind_eq_some_iff.mp chars
    exact ⟨value, by rw [← splitFraction_snd]; exact exponent⟩

/-- A text that reads as a number is scanned to its end. -/
theorem scanNumber_append (read : Numeral.toFloat? cs = some x)
    (stops : StopsAt isNumeralChar rest)
    : scanNumber (cs ++ rest) = (number x, rest) := by
  have digits : StopsAt Char.isDigit rest := stopsAt_isDigit stops
  have point : rest.head? ≠ some '.' := by
    intro next
    exact absurd (stops '.' next) (by decide)
  obtain ⟨value, exponent⟩ := exponent?_of_toFloat? read
  have numeral : cs.takeWhile Char.isDigit ++ (splitPoint (cs.dropWhile Char.isDigit)).1
      ++ (splitPoint (cs.dropWhile Char.isDigit)).2 = cs := by
    rw [List.append_assoc, splitPoint_joined, List.takeWhile_append_dropWhile]
  unfold scanNumber
  simp only [takeWhile_append_of_stopsAt cs digits, dropWhile_append_of_stopsAt cs digits,
    splitPoint_append _ digits point, splitExponent_append exponent stops, numeral, read]

/-- No character of a numeral is white space. -/
theorem not_isWhiteSpace_of_toFloat? (read : Numeral.toFloat? cs = some x) {c : Char} (mem : c ∈ cs)
    : Unicode.isWhiteSpace c = false := by
  have visible {c : Char} (digit : c.isDigit) : Unicode.isWhiteSpace c = false :=
    Unicode.not_isWhiteSpace_of_isAlphanumeric (Unicode.isAlphanumeric_of_isDigit digit)
  have taken {ds : List Char} (mem : c ∈ ds.takeWhile Char.isDigit) : c.isDigit :=
    List.all_eq_true.mp List.all_takeWhile c mem
  rw [← List.takeWhile_append_dropWhile (p := Char.isDigit) (l := cs),
    ← splitPoint_joined (cs.dropWhile Char.isDigit)] at mem
  rcases List.mem_append.mp mem with mem | mem
  · exact visible (taken mem)
  · rcases List.mem_append.mp mem with mem | mem
    · unfold splitPoint at mem
      split at mem
      · rcases List.mem_cons.mp mem with rfl | mem
        · decide
        · exact visible (taken mem)
      · cases mem
    · obtain ⟨value, exponent⟩ := exponent?_of_toFloat? read
      rcases Numeral.exponent?_cases exponent with
        none | ⟨mark, sign, digits, parts, isMark, isSign, _, all⟩
      · rw [none] at mem
        cases mem
      · rw [parts] at mem
        rcases List.mem_cons.mp mem with rfl | mem
        · rcases isMark with rfl | rfl <;> decide
        · rcases List.mem_append.mp mem with mem | mem
          · rcases isSign with rfl | rfl | rfl
            · cases mem
            · obtain rfl := List.mem_singleton.mp mem
              decide
            · obtain rfl := List.mem_singleton.mp mem
              decide
          · exact visible (all c mem)

/-- What is scanned as one number to its end reads as that number. -/
theorem toFloat?_of_scanNumber (h : scanNumber cs = (number x, []))
    : Numeral.toFloat? cs = some x := by
  have numeral : cs.takeWhile Char.isDigit ++ (splitPoint (cs.dropWhile Char.isDigit)).1
      ++ (splitExponent (splitPoint (cs.dropWhile Char.isDigit)).2).1
      ++ (splitExponent (splitPoint (cs.dropWhile Char.isDigit)).2).2 = cs := by
    rw [List.append_assoc, splitExponent_joined, List.append_assoc, splitPoint_joined,
      List.takeWhile_append_dropWhile]
  unfold scanNumber at h
  dsimp only at h
  split at h
  · next value read =>
    injection h with token rest
    cases token
    rw [rest, List.append_nil] at numeral
    rwa [numeral] at read
  · cases h

end Token

end Spreadsheet
