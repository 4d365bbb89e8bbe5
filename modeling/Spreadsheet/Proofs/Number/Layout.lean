import Spreadsheet.Proofs.Number.Written

/-! The layout of the General format: what it makes of a decimal is a tidy written number of the same
value, in the notation that the exponent of the leading digit asks for.
-/

namespace Spreadsheet.Number

-- How many digits a number has

variable {n : Nat}

theorem length_toDigits (positive : 0 < n) : (Nat.toDigits 10 n).length = log10 n + 1 := by
  induction n using log10.induct with
  | case1 n small => rw [Nat.toDigits_of_lt_base small, log10_of_lt small, List.length_singleton]
  | case2 n large ih =>
    rw [Nat.toDigits_of_base_le (by decide) (Nat.not_lt.mp large), List.length_append,
      List.length_singleton, ih (by omega), log10_of_not_lt large]

theorem log10_eq_iff {exponent : Nat} (positive : 0 < n)
    : log10 n = exponent ↔ 10 ^ exponent ≤ n ∧ n < 10 ^ (exponent + 1) := by
  obtain ⟨low, high⟩ := log10_bounds positive
  constructor
  · rintro rfl
    exact ⟨low, high⟩
  · rintro ⟨least, greatest⟩
    have above := (Nat.pow_lt_pow_iff_right (by decide)).mp (low.trans_lt greatest)
    have below := (Nat.pow_lt_pow_iff_right (by decide)).mp (least.trans_lt high)
    omega

/-- The leading digit is not zero. -/
theorem leadingDigit_bounds (positive : 0 < n) : 0 < n / 10 ^ log10 n ∧ n / 10 ^ log10 n < 10 := by
  obtain ⟨low, high⟩ := log10_bounds positive
  rw [Nat.pow_succ] at high
  exact ⟨Nat.div_pos low (Nat.pow_pos (by decide)), Nat.div_lt_of_lt_mul high⟩

theorem lastDigits_mul_pow (n count : Nat)
    : lastDigits count (n * 10 ^ count) = List.replicate count '0' := by
  induction count with
  | zero => rfl
  | succ count ih =>
    rw [lastDigits, Nat.pow_succ, ← Nat.mul_assoc, Nat.mul_div_cancel _ (by decide), ih,
      Nat.mul_mod_left, List.replicate_succ']
    rfl

/-- Zeros behind the digits multiply by a power of ten. -/
theorem toDigits_mul_pow (positive : 0 < n) (count : Nat)
    : Nat.toDigits 10 (n * 10 ^ count) = Nat.toDigits 10 n ++ List.replicate count '0' := by
  have power : 0 < 10 ^ count := Nat.pow_pos (by decide)
  rw [toDigits_eq_append (Nat.le_mul_of_pos_left _ positive), Nat.mul_div_cancel _ power,
    lastDigits_mul_pow]

-- Digits with a point and with an exponent

namespace Decimal

variable {d : Decimal}

/-- Stripping zeros changes neither the number nor the exponent of its leading digit, by induction
on the zeros.
-/
theorem strip_spec (d : Decimal) (positive : 0 < d.digits)
    : d.strip.digits % 10 ≠ 0 ∧ d.strip.value = d.value ∧ d.strip.magnitude = d.magnitude := by
  induction d using strip.induct with
  | case1 d zero ih =>
    obtain ⟨digits, value, magnitude⟩ := ih (by dsimp only; omega)
    have stripped : d.strip = strip ⟨d.digits / 10, d.exponent + 1⟩ := by
      rw [strip, dif_pos zero]
    rw [stripped]
    refine ⟨digits, value.trans ?_, magnitude.trans ?_⟩
    · have tenfold : (d.digits : ℚ) = (d.digits / 10 : Nat) * 10 := by
        exact_mod_cast (by omega : d.digits = d.digits / 10 * 10)
      rw [Decimal.value, Decimal.value, tenfold, zpow_add_one₀ (by norm_num), mul_assoc,
        mul_comm (10 : ℚ)]
    · have more : ¬d.digits < 10 := by omega
      rw [Decimal.magnitude, Decimal.magnitude, log10_of_not_lt more]
      push_cast
      ring
  | case2 d noZero =>
    rw [strip, dif_neg noZero]
    exact ⟨by omega, rfl, rfl⟩

end Decimal

namespace Written

variable {d : Decimal}

theorem text_eq (w : Written)
    : w.text = (if w.negative then "-" else "") ++ text { w with negative := false } := by
  rw [text, text, mantissa, mantissa, front, front, ← String.toList_inj]
  split <;> simp

theorem text_shifted (digits places : Nat) (exponent : Option Int)
    : (shifted false digits places exponent).text
      = String.ofList (Nat.toDigits 10 (digits / 10 ^ places) ++ pointed (lastDigits places digits)
        ++ marked exponent) :=
  rfl

theorem pointed_lastDigits {places : Nat} (digits : Nat) (some : 0 < places)
    : pointed (lastDigits places digits) = '.' :: lastDigits places digits := by
  refine if_neg fun none => ?_
  have length := length_lastDigits places digits
  rw [none] at length
  exact some.ne length

/-- Digits laid out with zeros behind them, or with a point among or in front of them, are a whole
number with its point moved.
-/
theorem writePositional_eq (positive : 0 < d.digits)
    : generalLayout.writePositional d
      = (shifted false (d.digits * 10 ^ d.exponent.toNat) (-d.exponent).toNat none).text := by
  have size := length_toDigits positive
  rw [Layout.writePositional, text_shifted]
  dsimp only [generalLayout, marked]
  split
  · next nonneg =>
    have noPlaces : (-d.exponent).toNat = 0 := by omega
    rw [noPlaces, pow_zero, Nat.div_one, toDigits_mul_pow positive]
    simp [pointed, lastDigits]
  · next negative =>
    have noZeros : d.exponent.toNat = 0 := by omega
    have some : 0 < (-d.exponent).toNat := by omega
    rw [noZeros, pow_zero, Nat.mul_one, pointed_lastDigits _ some]
    generalize (-d.exponent).toNat = places at *
    split
    · next inside =>
      have large : 10 ^ places ≤ d.digits :=
        (Nat.pow_le_pow_right (by decide) (by omega)).trans (log10_bounds positive).1
      have cut : (Nat.toDigits 10 d.digits).length - places
          = (Nat.toDigits 10 (d.digits / 10 ^ places)).length := by
        rw [toDigits_eq_append large, List.length_append, length_lastDigits, Nat.add_sub_cancel]
      rw [cut, toDigits_eq_append large, List.take_left, List.drop_left, ← String.toList_inj]
      simp
    · next outside =>
      have small : d.digits < 10 ^ places :=
        (log10_bounds positive).2.trans_le (Nat.pow_le_pow_right (by decide) (by omega))
      rw [Nat.div_eq_of_lt small, ← zeros_append_toDigits some small, ← String.toList_inj]
      simp

/-- The leading digit stands in front of the point. -/
theorem writeScientific_eq (positive : 0 < d.digits)
    : generalLayout.writeScientific d
      = (shifted false d.digits (log10 d.digits) (some d.magnitude)).text := by
  obtain ⟨leading, isLeading⟩ : ∃ leading, leading = d.digits / 10 ^ log10 d.digits := ⟨_, rfl⟩
  obtain ⟨rest, isRest⟩ : ∃ rest, rest = lastDigits (log10 d.digits) d.digits := ⟨_, rfl⟩
  have single : Nat.toDigits 10 leading = [leading.digitChar] :=
    Nat.toDigits_of_lt_base (isLeading ▸ (leadingDigit_bounds positive).2)
  have digits : Nat.toDigits 10 d.digits = leading.digitChar :: rest := by
    rw [toDigits_eq_append (log10_bounds positive).1, ← isLeading, ← isRest, single]
    rfl
  have fraction : (if (leading.digitChar :: rest).length ≤ 1 then ""
      else "." ++ String.ofList ((leading.digitChar :: rest).drop 1)).toList = pointed rest := by
    cases rest with
    | nil => rfl
    | cons next rest => simp [pointed]
  have sign : (if d.magnitude < 0 then "-" else "+").toList
      = [if d.magnitude < 0 then '-' else '+'] := by
    split <;> rfl
  rw [Layout.writeScientific, text_shifted, digits, ← isLeading, ← isRest, single,
    ← String.toList_inj]
  simp only [String.toList_append, fraction, generalLayout, sign, marked]
  simp

/-- What the layout of the General format makes of a decimal. -/
theorem exists_write (negative : Bool) (d : Decimal) (positive : 0 < d.digits)
    : ∃ w : Written, generalLayout.write negative d = w.text ∧ w.Tidy ∧ w.negative = negative
        ∧ w.size = d.value
        ∧ w.exponent = (if -9 ≤ d.magnitude ∧ d.magnitude < 15 then none else some d.magnitude)
        ∧ (w.exponent ≠ none → 1 ≤ w.whole ∧ w.whole ≤ 9) := by
  obtain ⟨noZero, value, magnitude⟩ := d.strip_spec positive
  rw [Layout.write]
  generalize d.strip = s at *
  have stripped : 0 < s.digits := by omega
  rw [← value, ← magnitude]
  by_cases plain : -9 ≤ s.magnitude ∧ s.magnitude < 15
  · have positional : generalLayout.positional s.magnitude = true := by
      simpa [generalLayout] using plain
    refine ⟨shifted negative (s.digits * 10 ^ s.exponent.toNat) (-s.exponent).toNat none, ?_, ?_,
      rfl, ?_, (if_pos plain).symm, fun marked => absurd rfl marked⟩
    · rw [if_pos positional, writePositional_eq stripped, text_eq (shifted negative _ _ _)]
      rfl
    · refine tidy_shifted ?_
      rcases le_total 0 s.exponent with nonneg | nonpos
      · exact .inl (by omega)
      · have noZeros : s.exponent.toNat = 0 := by omega
        exact .inr (by rwa [noZeros, pow_zero, Nat.mul_one])
    · rw [size_shifted, Decimal.value, zpow_eq_div (by norm_num) s.exponent, Option.getD_none,
        zpow_zero, mul_one, Nat.cast_mul, mul_div_assoc]
      push_cast
      rfl
  · have scientific : ¬generalLayout.positional s.magnitude = true := by
      simpa [generalLayout] using plain
    have leading := leadingDigit_bounds stripped
    refine ⟨shifted negative s.digits (log10 s.digits) (some s.magnitude), ?_,
      tidy_shifted (.inr noZero), rfl, ?_, (if_neg plain).symm, fun _ => ?_⟩
    · rw [if_neg scientific, writeScientific_eq stripped, text_eq (shifted negative _ _ _)]
      rfl
    · rw [size_shifted, Decimal.value, Option.getD_some, Decimal.magnitude,
        zpow_add₀ (by norm_num), zpow_natCast, ← mul_assoc, div_mul_cancel₀ _ (by positivity)]
    · exact ⟨leading.1, Nat.le_of_lt_succ leading.2⟩

end Written

end Spreadsheet.Number
