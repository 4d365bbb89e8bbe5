import Spreadsheet.Unicode.Alphabetic
import Spreadsheet.Unicode.WhiteSpace

/-! Single characters: ASCII taken one by one, and sets that have no character in common. -/

namespace Spreadsheet.Unicode

/-- What holds of the first 128 code points holds of every ASCII character. -/
theorem forall_ascii {P : Char → Prop} (h : ∀ n < 0x80, P (Char.ofNat n)) {c : Char}
    (ascii : c.toNat < 0x80)
    : P c := by
  have := h c.toNat ascii
  rwa [Char.ofNat_toNat] at this

theorem ascii_of_isDigit {c : Char} (h : c.isDigit) : c.toNat < 0x80 :=
  Nat.lt_of_le_of_lt (Char.isDigit_iff_toNat.mp h).2 (by decide)

/-- What holds of the digits among the first 128 code points holds of every digit. -/
theorem forall_digit {P : Char → Prop}
    (h : ∀ n < 0x80, (Char.ofNat n).isDigit → P (Char.ofNat n)) {c : Char} (digit : c.isDigit)
    : P c :=
  forall_ascii (P := fun c => c.isDigit → P c) h (ascii_of_isDigit digit) digit

theorem toNat_ofNat {n : Nat} (valid : n.isValidChar) : (Char.ofNat n).toNat = n := by
  unfold Char.ofNat
  rw [dif_pos valid]
  rfl

/-- Sets of disjoint intervals have no character in common. -/
theorem not_contains_of_disjoint {left right : CodeRanges} {c : Char}
    (apart : ∀ r ∈ left, ∀ s ∈ right, r.2 < s.1 ∨ s.2 < r.1) (h : left.contains c)
    : right.contains c = false := by
  obtain ⟨r, inLeft, holds⟩ := List.any_eq_true.mp h
  refine List.any_eq_false.mpr fun s inRight => ?_
  have := apart r inLeft s inRight
  simp only [Bool.and_eq_true, decide_eq_true_eq] at holds ⊢
  omega

/-- Letters and numbers are not white space. -/
theorem not_isWhiteSpace_of_isAlphanumeric {c : Char} (h : isAlphanumeric c)
    : isWhiteSpace c = false := by
  by_cases ascii : c.toNat < 0x80
  · have ascii_cases : ∀ n < 0x80, isAlphanumeric (Char.ofNat n)
        → isWhiteSpace (Char.ofNat n) = false := by
      decide
    exact forall_ascii (P := fun c => isAlphanumeric c → isWhiteSpace c = false) ascii_cases ascii h
  · rw [isAlphanumeric, isAlphabetic, isNumeric, if_neg ascii, if_neg ascii] at h
    rcases Bool.or_eq_true_iff.mp h with letter | number
    · exact not_contains_of_disjoint (by decide +kernel) letter
    · exact not_contains_of_disjoint (by decide +kernel) number

theorem isAlphanumeric_of_isAlpha {c : Char} (h : c.isAlpha) : isAlphanumeric c :=
  Bool.or_eq_true_iff.mpr (.inl (isAlphabetic_of_isAlpha h))

theorem isAlphanumeric_of_isDigit {c : Char} (h : c.isDigit) : isAlphanumeric c := by
  rw [isAlphanumeric, isNumeric, if_pos (ascii_of_isDigit h), h, Bool.or_true]

end Spreadsheet.Unicode
