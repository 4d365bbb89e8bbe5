import Spreadsheet.Proofs.Number.Layout

/-! Numbers as cells of the General format show them: the exact value of a double, rounded to 15
significant digits and written without superfluous zeros.
-/

namespace Spreadsheet.Number

open Numeral

-- The exact value of a double

/-- The number that the parts of a double stand for. -/
def Binary.value (b : Binary) : ℚ :=
  b.signed * 2 ^ b.exponent

/-- The exact value of a finite double. -/
def exactValue? (x : Float) : Option ℚ :=
  (Binary.ofFloat? x).map Binary.value

/-- Every finite double has its parts. -/
theorem exists_ofFloat? {x : Float} (finite : x.isFinite) : ∃ b, Binary.ofFloat? x = some b := by
  change x.toModel.unpack.isFinite at finite
  have below : @Float.Model.UnpackedFloat.unpackExponent .binary64 x.toModel.toBits.toBitVec
      ≠ -1#_ := by
    intro top
    rw [Float.Model.unpack, Float.Model.UnpackedFloat.unpack] at finite
    simp only [top, if_true] at finite
    split at finite <;> cases finite
  have field : (x.toBits.toNat >>> 52) % (1 <<< 11) ≠ 2047 :=
    fun top => below (BitVec.eq_of_toNat_eq top)
  unfold Binary.ofFloat?
  simp only [field, if_false]
  split
  · exact ⟨_, rfl⟩
  · exact ⟨_, rfl⟩

namespace Binary

variable {b : Binary}

theorem ratio_pos (nonzero : b.mantissa ≠ 0) : 0 < b.ratio.1 ∧ 0 < b.ratio.2 := by
  rw [ratio]
  dsimp only
  rw [Nat.shiftLeft_eq, Nat.shiftLeft_eq]
  constructor <;> positivity

theorem ratio_value (b : Binary) : (b.ratio.1 : ℚ) / b.ratio.2 = b.mantissa * 2 ^ b.exponent := by
  rw [zpow_eq_div (by norm_num), ratio]
  dsimp only
  rw [Nat.shiftLeft_eq, Nat.shiftLeft_eq, one_mul]
  push_cast
  ring

theorem value_eq (b : Binary)
    : b.value = if b.negative then -((b.ratio.1 : ℚ) / b.ratio.2) else b.ratio.1 / b.ratio.2 := by
  rw [ratio_value, value, signed]
  split <;> push_cast <;> ring

theorem value_eq_zero : b.value = 0 ↔ b.mantissa = 0 := by
  have power : (2 : ℚ) ^ b.exponent ≠ 0 := zpow_ne_zero _ (by norm_num)
  rw [value, signed, mul_eq_zero, or_iff_left power]
  split <;> simp

end Binary

-- What is shown

section

variable {x : Float} {b : Binary}

namespace Binary

/-- The 15 digits that the magnitude is rounded to. -/
def rounded (b : Binary) : Decimal :=
  .rounded .even 15 b.ratio.1 b.ratio.2

/-- The same digits with the sign of the number. -/
def roundedDigits (b : Binary) : Int :=
  if b.negative then -b.rounded.digits else b.rounded.digits

/-- The exponent of the leading one of these digits. -/
def roundedExponent (b : Binary) : Int :=
  b.rounded.exponent + 14

theorem rounding_rounded (nonzero : b.mantissa ≠ 0)
    : Rounding 14 ((b.ratio.1 : ℚ) / b.ratio.2) b.rounded.digits b.roundedExponent :=
  have ⟨pos, positive⟩ := ratio_pos nonzero
  Decimal.rounding_rounded pos positive (by decide)

/-- The digits are those that the number rounds to. -/
theorem roundsTo (nonzero : b.mantissa ≠ 0)
    : RoundsTo 14 b.value b.roundedDigits b.roundedExponent
      ∧ ∀ digits exponent, RoundsTo 14 b.value digits exponent
        → digits = b.roundedDigits ∧ exponent = b.roundedExponent := by
  rw [value_eq, roundedDigits]
  exact (rounding_rounded nonzero).signed b.negative

theorem rounded_bounds (nonzero : b.mantissa ≠ 0)
    : 10 ^ 14 ≤ b.rounded.digits ∧ b.rounded.digits < 10 ^ 15 := by
  have ⟨wide, narrow⟩ := (rounding_rounded nonzero).length
  rw [Nat.abs_cast] at wide narrow
  exact ⟨by exact_mod_cast wide, by exact_mod_cast narrow⟩

theorem magnitude_rounded (nonzero : b.mantissa ≠ 0) : b.rounded.magnitude = b.roundedExponent := by
  have bounds := rounded_bounds nonzero
  have positive : 0 < b.rounded.digits := by omega
  rw [Decimal.magnitude, (log10_eq_iff positive).mpr bounds, roundedExponent, add_comm]
  rfl

theorem roundedExponent_sub (b : Binary) : b.roundedExponent - (14 : Nat) = b.rounded.exponent :=
  add_sub_cancel_right _ _

theorem scientificValue_rounded (b : Binary)
    : scientificValue 14 b.roundedDigits b.roundedExponent
      = if b.negative then -b.rounded.value else b.rounded.value := by
  rw [scientificValue, roundedDigits, roundedExponent_sub, Decimal.value]
  split <;> push_cast <;> ring

end Binary

/-- A text shows a number if it is made up of the sign and the rounded digits, in the notation that
their exponent asks for.
-/
structure Written.Shows (w : Written) (b : Binary) : Prop extends w.Tidy where
  sign : w.negative = b.negative
  size : w.size = b.rounded.value
  notated : w.exponent
    = if -9 ≤ b.roundedExponent ∧ b.roundedExponent < 15 then none else some b.roundedExponent

theorem Written.Shows.value {w : Written} (h : w.Shows b)
    : w.value = scientificValue 14 b.roundedDigits b.roundedExponent := by
  rw [Binary.scientificValue_rounded, Written.value, h.sign, h.size]

/-- There is one text that shows a number. -/
theorem Written.Shows.unique {w w' : Written} (h : w.Shows b) (h' : w'.Shows b) : w = w' :=
  h.toTidy.eq_of_value h'.toTidy (h.sign.trans h'.sign.symm) (h.notated.trans h'.notated.symm)
    (h.value.trans h'.value.symm)

theorem general_of_zero (read : Binary.ofFloat? x = some b) (zero : b.mantissa = 0)
    : general x = "0" := by
  rw [general]
  simp only [read]
  exact if_pos zero

theorem exists_general (read : Binary.ofFloat? x = some b) (nonzero : b.mantissa ≠ 0)
    : ∃ w : Written, general x = w.text ∧ w.Shows b
        ∧ (w.exponent ≠ none → 1 ≤ w.whole ∧ w.whole ≤ 9) := by
  have bounds := Binary.rounded_bounds nonzero
  have shown : general x = generalLayout.write b.negative b.rounded := by
    rw [general]
    simp only [read]
    exact if_neg nonzero
  obtain ⟨w, text, tidy, sign, size, notated, leading⟩ :=
    Written.exists_write b.negative b.rounded (by omega)
  rw [Binary.magnitude_rounded nonzero] at notated
  exact ⟨w, shown.trans text, ⟨tidy, sign, size, notated⟩, leading⟩

-- Integers

/-- An integer of at most 15 digits is one of the decimals of that length. -/
theorem exists_decimal_of_abs_lt {n : Int} (nonzero : n ≠ 0) (small : |n| < 10 ^ 15)
    : ∃ digits exponent, HasPlaces 14 digits ∧ scientificValue 14 digits exponent = n
        ∧ 0 ≤ exponent ∧ exponent < 15 := by
  obtain ⟨low, high⟩ := log10_bounds (Int.natAbs_pos.mpr nonzero)
  have short : log10 n.natAbs < 15 := by
    rw [Int.abs_eq_natAbs] at small
    exact (Nat.pow_lt_pow_iff_right (by decide)).mp (low.trans_lt (by exact_mod_cast small))
  obtain ⟨rest, sum⟩ := Nat.exists_eq_add_of_le (Nat.le_of_lt_succ short)
  have size : |n * 10 ^ rest| = (n.natAbs * 10 ^ rest : Nat) := by
    rw [abs_mul, abs_of_pos (by positivity : (0 : Int) < 10 ^ rest), Int.abs_eq_natAbs]
    push_cast
    rfl
  refine ⟨n * 10 ^ rest, log10 n.natAbs, ⟨?_, ?_⟩, ?_, by omega, by omega⟩
  · rw [size, sum, pow_add]
    exact_mod_cast Nat.mul_le_mul_right (10 ^ rest) low
  · rw [size, sum, Nat.add_right_comm, pow_add]
    exact_mod_cast Nat.mul_lt_mul_of_pos_right high (Nat.pow_pos (by decide))
  · have units : (log10 n.natAbs : Int) - (14 : Nat) = -rest := by
      rw [sum]
      push_cast
      ring
    rw [scientificValue, units, zpow_neg, zpow_natCast]
    push_cast
    field_simp

/-- The plain digits of an integer. -/
def Written.integer (n : Int) : Written :=
  ⟨decide (n < 0), n.natAbs, [], none⟩

theorem Written.text_integer (n : Int) : (integer n).text = toString n := by
  cases n with
  | ofNat n =>
    change _ = String.ofList (Nat.toDigits 10 n)
    simp [integer, text, mantissa, front, pointed, marked]
  | negSucc n =>
    change _ = "-" ++ String.ofList (Nat.toDigits 10 (n + 1))
    rw [← String.toList_inj]
    simp [integer, text, mantissa, front, pointed, marked, Int.negSucc_lt_zero]

theorem Written.value_integer (n : Int) : (integer n).value = n := by
  have size : (integer n).size = n.natAbs := by simp [integer, Written.size, digitsValue]
  rw [Written.value, size, integer]
  rcases lt_or_ge n 0 with negative | nonneg
  · rw [if_pos (decide_eq_true negative), Nat.cast_natAbs, abs_of_neg negative]
    push_cast
    ring
  · rw [if_neg (by simpa using nonneg), Nat.cast_natAbs, abs_of_nonneg nonneg]

theorem Binary.negative_eq {n : Int} (nonzero : b.mantissa ≠ 0) (value : b.value = n)
    : b.negative = decide (n < 0) := by
  obtain ⟨top, bottom⟩ := ratio_pos nonzero
  have positive : (0 : ℚ) < b.ratio.1 / b.ratio.2 :=
    div_pos (by exact_mod_cast top) (by exact_mod_cast bottom)
  rw [value_eq] at value
  cases sign : b.negative with
  | true =>
    rw [sign, if_pos rfl] at value
    have below : (n : ℚ) < 0 := by linarith
    exact (decide_eq_true (by exact_mod_cast below)).symm
  | false =>
    rw [sign, if_neg Bool.false_ne_true] at value
    have above : (0 : ℚ) < n := by linarith
    have above : 0 < n := by exact_mod_cast above
    exact (decide_eq_false (by omega)).symm

/-- An integer of at most 15 digits is shown with all of them. -/
theorem general_integer {n : Int} (read : Binary.ofFloat? x = some b) (value : b.value = n)
    (small : |n| < 10 ^ 15)
    : general x = toString n := by
  rcases eq_or_ne b.mantissa 0 with zero | nonzero
  · have same : n = 0 := by
      rw [Binary.value_eq_zero.mpr zero] at value
      exact_mod_cast value.symm
    rw [general_of_zero read zero, same]
    rfl
  · have other : n ≠ 0 := by
      rintro rfl
      exact nonzero (Binary.value_eq_zero.mp (by exact_mod_cast value))
    obtain ⟨digits, exponent, length, exact, nonneg, below⟩ := exists_decimal_of_abs_lt other small
    obtain ⟨sameDigits, sameExponent⟩ :=
      (Binary.roundsTo nonzero).1.eq_of_value length (exact.trans value.symm)
    obtain ⟨w, shown, shows, _⟩ := exists_general read nonzero
    have whole : w = .integer n := by
      have sign := shows.sign.trans (Binary.negative_eq nonzero value)
      refine shows.toTidy.eq_of_value ⟨nofun, nofun⟩ sign ?_ ?_
      · rw [shows.notated, sameExponent]
        exact if_pos ⟨by omega, below⟩
      · rw [shows.value, sameDigits, sameExponent, exact, Written.value_integer]
    rw [shown, whole, Written.text_integer]

-- Two roundings

/-- The decimals that are printed first. The exponent of one rounding says whether another one to so
many decimals is shown instead.
-/
def Binary.untrimmed (b : Binary) : Written :=
  if -9 ≤ b.roundedExponent ∧ b.roundedExponent < 15 then
    let places := (14 - b.roundedExponent).toNat
    .shifted b.negative (roundDiv .even (b.ratio.1 * 10 ^ places) b.ratio.2) places none
  else .shifted b.negative b.rounded.digits 14 (some b.roundedExponent)

/-- A number rounded twice, first for its exponent and then for its decimals, with the zeros cut off
that are left at the end of the fraction.
-/
def generalByTwoRoundings (x : Float) : String :=
  match Binary.ofFloat? x with
  | none => "#NUM!"
  | some b =>
    if b.mantissa = 0 then "0"
    else
      .ofList (trimFraction b.untrimmed.mantissa ++ Written.marked b.untrimmed.exponent)

theorem Binary.unit_eq (below : b.roundedExponent < 15)
    : (10 : ℚ) ^ (b.roundedExponent - (14 : Nat)) = 1 / 10 ^ (14 - b.roundedExponent).toNat := by
  have places : b.roundedExponent - (14 : Nat) = -(14 - b.roundedExponent).toNat := by
    push_cast
    omega
  rw [places, zpow_neg, zpow_natCast, one_div]

/-- Rounded to the decimals that 15 digits leave, a number has the same digits again, also where the
first rounding carried into a new power of ten.
-/
theorem Binary.roundDiv_decimals (nonzero : b.mantissa ≠ 0) (below : b.roundedExponent < 15)
    : roundDiv .even (b.ratio.1 * 10 ^ (14 - b.roundedExponent).toNat) b.ratio.2
      = b.rounded.digits := by
  have unit := power_pos (b.roundedExponent - (14 : Nat))
  have again := nearestCount_roundDiv (b.ratio.1 * 10 ^ (14 - b.roundedExponent).toNat)
    (ratio_pos nonzero).2
  have scaled : ((b.ratio.1 * 10 ^ (14 - b.roundedExponent).toNat : Nat) : ℚ) / b.ratio.2
      = b.ratio.1 / b.ratio.2 / 10 ^ (b.roundedExponent - (14 : Nat)) := by
    rw [unit_eq below, one_div, div_inv_eq_mul]
    push_cast
    ring
  rw [scaled] at again
  exact_mod_cast (rounding_rounded nonzero).count.unique (again.scale unit) unit

theorem Binary.isDigit_untrimmed (b : Binary) {c : Char} (mem : c ∈ b.untrimmed.fraction)
    : c.isDigit := by
  rw [untrimmed] at mem
  split at mem
  · exact isDigit_of_mem_lastDigits mem
  · exact isDigit_of_mem_lastDigits mem

/-- Both ways lead to the digits of the one rounding. -/
theorem Binary.size_untrimmed (nonzero : b.mantissa ≠ 0) : b.untrimmed.size = b.rounded.value := by
  have value : b.rounded.value
      = b.rounded.digits * 10 ^ (b.roundedExponent - (14 : Nat)) := by
    rw [Decimal.value, roundedExponent_sub]
  rw [untrimmed]
  split
  · next plain =>
    dsimp only
    rw [roundDiv_decimals nonzero plain.2, Written.size_shifted, value, unit_eq plain.2,
      Option.getD_none, zpow_zero, mul_one, mul_one_div]
  · rw [Written.size_shifted, value, Option.getD_some, zpow_sub₀ (by norm_num), zpow_natCast]
    ring

theorem Binary.shows_untrimmed (nonzero : b.mantissa ≠ 0) : b.untrimmed.trimmed.Shows b := by
  refine ⟨Written.tidy_trimmed fun _ => b.isDigit_untrimmed, ?_, ?_, ?_⟩
  · rw [Written.trimmed, untrimmed]
    split <;> rfl
  · rw [Written.size_trimmed, size_untrimmed nonzero]
  · rw [Written.trimmed, untrimmed]
    split <;> rfl

/-- The two roundings agree, and cutting zeros off leaves the digits of an integer alone. -/
theorem general_eq_generalByTwoRoundings (x : Float) : general x = generalByTwoRoundings x := by
  cases read : Binary.ofFloat? x with
  | none =>
    rw [general, generalByTwoRoundings]
    simp only [read]
  | some b =>
    rcases eq_or_ne b.mantissa 0 with zero | nonzero
    · rw [general_of_zero read zero, generalByTwoRoundings]
      simp only [read]
      exact (if_pos zero).symm
    · obtain ⟨w, shown, shows, _⟩ := exists_general read nonzero
      rw [shown, shows.unique (Binary.shows_untrimmed nonzero), generalByTwoRoundings]
      simp only [read]
      rw [if_neg nonzero, Written.trimFraction_mantissa fun _ => b.isDigit_untrimmed]
      rfl

end

/-- The text of a finite double has the double's exact value, correctly rounded to 15 significant
digits and half to even; there is one way to do that. It is plain if the leading digit has an
exponent from -9 to 14, and otherwise scientific with one digit before the point. There is no zero
at the end of a fraction and no point without one, integers of at most 15 digits are written as they
are, and a second rounding to decimals would not change the first.
-/
theorem general_correctly_rounded {x : Float} (finite : x.isFinite)
    : ∃ q, exactValue? x = some q
        ∧ (q ≠ 0 → ∃ digits exponent, RoundsTo 14 q digits exponent
          ∧ (∀ digits' exponent', RoundsTo 14 q digits' exponent'
            → digits' = digits ∧ exponent' = exponent)
          ∧ denoted? (general x) = some ((digits : ℚ) * 10 ^ (exponent - 14))
          ∧ ∃ w : Written, general x = w.text ∧ w.Tidy
            ∧ w.exponent = (if -9 ≤ exponent ∧ exponent < 15 then none else some exponent)
            ∧ (w.exponent ≠ none → 1 ≤ w.whole ∧ w.whole ≤ 9))
        ∧ (∀ n : Int, q = n → |n| < 10 ^ 15 → general x = toString n)
        ∧ general x = generalByTwoRoundings x := by
  obtain ⟨b, read⟩ := exists_ofFloat? finite
  refine ⟨b.value, by rw [exactValue?, read, Option.map_some], fun some_ => ?_,
    fun n value small => general_integer read value small, general_eq_generalByTwoRoundings x⟩
  have nonzero : b.mantissa ≠ 0 := fun zero => some_ (Binary.value_eq_zero.mpr zero)
  obtain ⟨rounds, only⟩ := Binary.roundsTo nonzero
  obtain ⟨w, shown, shows, leading⟩ := exists_general read nonzero
  refine ⟨b.roundedDigits, b.roundedExponent, rounds, only, ?_, w, shown, shows.toTidy,
    shows.notated, leading⟩
  rw [shown, Written.denoted?_text shows.digits, shows.value]
  rfl

/-- The double that `1E+23` reads as is below it, and is rounded up to the power of ten. -/
theorem general_correctly_rounded_carry
    : let x : Float := .ofBits 0x44B52D02C7E14AF6
      x.isFinite ∧ exactValue? x = some 99999999999999991611392 ∧ general x = "1E+23"
        ∧ RoundsTo 14 99999999999999991611392 (10 ^ 14) 23 := by
  have finite : (Float.ofBits 0x44B52D02C7E14AF6).isFinite := by decide
  have parts : Binary.ofFloat? (.ofBits 0x44B52D02C7E14AF6)
      = some ⟨false, 5960464477539062, 24⟩ := by
    decide
  have value : exactValue? (.ofBits 0x44B52D02C7E14AF6) = some 99999999999999991611392 := by
    rw [exactValue?, parts, Option.map_some, Binary.value, Binary.signed]
    norm_num
  have text : general (.ofBits 0x44B52D02C7E14AF6) = "1E+23" := by with_unfolding_all rfl
  have read : denoted? "1E+23" = some (scientificValue 14 (10 ^ 14) 23) := by
    have numeral : Numeral.ofChars? "1E+23".toList = some ⟨1, 23⟩ := by decide
    change (Numeral.ofChars? "1E+23".toList).map Decimal.value = _
    rw [numeral, Option.map_some, Decimal.value, scientificValue]
    norm_num
  obtain ⟨q, same, rounded, _⟩ := general_correctly_rounded finite
  obtain rfl := Option.some.inj (value.symm.trans same)
  obtain ⟨digits, exponent, rounds, _, shown, _⟩ := rounded (by norm_num)
  rw [text, read, Option.some.injEq] at shown
  have length : HasPlaces 14 (10 ^ 14) := ⟨by norm_num, by norm_num⟩
  obtain ⟨rfl, rfl⟩ := length.eq_of_value rounds.length shown
  exact ⟨finite, value, text, rounds⟩

end Spreadsheet.Number
