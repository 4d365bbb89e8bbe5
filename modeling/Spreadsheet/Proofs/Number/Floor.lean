import Spreadsheet.Proofs.Number.Whole

/-! The integer below a double: that of a whole double is the number itself, and one that is too
great to be held exactly stays far from those that are not.
-/

namespace Spreadsheet.Number

open Float.Model (UnpackedFloat Format totalExponent)
open Float.Model.UnpackedFloat (Sign ExtendedMantissa)

/-- The greatest integer that is not above a finite double. -/
def floor? (x : Float) : Option Int :=
  (Binary.ofFloat? x).map Binary.floor

theorem floor?_ofInt {n : Int} (small : n.natAbs < 2 ^ 53) : floor? (Float.ofInt n) = some n := by
  obtain ⟨b, read, floor, _⟩ := ofFloat?_ofInt small
  rw [floor?, read, Option.map_some, floor]

-- Numbers of more than 53 bits

theorem mantissa_repeat_shiftRightOne (em : ExtendedMantissa) (n : Nat)
    : (Nat.repeat ExtendedMantissa.shiftRightOne n em).mantissa = em.mantissa / 2 ^ n := by
  induction n with
  | zero => simp [Nat.repeat]
  | succ n ih =>
    rw [Nat.repeat, ExtendedMantissa.shiftRightOne, ih, Nat.div_div_eq_div_mul, Nat.pow_succ]

/-- Rounding takes a mantissa to itself or to the next one. -/
theorem roundedMantissa_bounds (em : ExtendedMantissa)
    : em.mantissa ≤ em.roundedMantissa ∧ em.roundedMantissa ≤ em.mantissa + 1 := by
  rw [ExtendedMantissa.roundedMantissa]
  unfold UnpackedFloat.Accuracy.roundToNearestEven
  split <;> omega

/-- The mantissa has 53 bits, and the exponent makes an even integer of it. -/
structure Great (mantissa : Nat) (exponent : Int) : Prop where
  wide : 2 ^ 52 ≤ mantissa
  narrow : mantissa < 2 ^ 53
  even : 1 ≤ exponent

variable {m n : Nat} {e : Int}

theorem Great.pos (h : Great m e) : 0 < m :=
  Nat.lt_of_lt_of_le (by decide) h.wide

theorem targetExponent_great {bits : Nat} (isLog : m.log2 = bits) (positive : 1 ≤ bits + e)
    : Format.binary64.targetExponent (totalExponent m e) = bits + e - 52 := by
  rw [totalExponent, isLog, Format.targetExponent, Format.minExponent, Format.mantissaBits]
  dsimp only
  omega

/-- A mantissa that has been rounded up to 54 bits is shifted once more. -/
theorem exists_great_of_rounded (low : 2 ^ 52 ≤ m) (high : m ≤ 2 ^ 53) (even : 1 ≤ e)
    : Great (UnpackedFloat.shiftToTargetExponent .binary64 m e .exact).1.mantissa
      (UnpackedFloat.shiftToTargetExponent .binary64 m e .exact).2 := by
  have mantissa (bits : Nat) (isLog : m.log2 = bits) (shift : Nat) (isShift : bits = 52 + shift)
      : (UnpackedFloat.shiftToTargetExponent .binary64 m e .exact).1.mantissa = m / 2 ^ shift
        ∧ (UnpackedFloat.shiftToTargetExponent .binary64 m e .exact).2 = e + shift := by
    have amount : (Format.binary64.targetExponent (totalExponent m e) - e).toNat = shift := by
      rw [targetExponent_great isLog (by omega)]
      omega
    rw [UnpackedFloat.shiftToTargetExponent, UnpackedFloat.shiftToExponent, amount]
    exact ⟨mantissa_repeat_shiftRightOne _ shift, rfl⟩
  have positive : m ≠ 0 := by omega
  rcases Nat.lt_or_eq_of_le high with narrow | rfl
  · obtain ⟨same, shifted⟩ :=
      mantissa 52 ((Nat.log2_eq_iff positive).mpr ⟨low, narrow⟩) 0 rfl
    rw [same, shifted]
    exact ⟨by omega, by omega, by omega⟩
  · obtain ⟨same, shifted⟩ := mantissa 53 (Nat.log2_two_pow) 1 rfl
    rw [same, shifted]
    exact ⟨by decide, by decide, by omega⟩

/-- The leading 53 bits of a number. -/
theorem leading_bounds {bits : Nat} (low : 2 ^ bits ≤ n) (high : n < 2 ^ (bits + 1))
    : 2 ^ 52 ≤ n * 2 ^ 53 / 2 ^ (bits + 1) ∧ n * 2 ^ 53 / 2 ^ (bits + 1) < 2 ^ 53 := by
  refine ⟨(Nat.le_div_iff_mul_le (Nat.two_pow_pos _)).mpr ?_,
    Nat.div_lt_of_lt_mul (Nat.mul_lt_mul_of_pos_right high (Nat.two_pow_pos 53))⟩
  have sum : 52 + (bits + 1) = bits + 53 := by omega
  rw [← Nat.pow_add, sum, Nat.pow_add]
  exact Nat.mul_le_mul_right _ low

/-- A number of more than 53 bits is rounded to one that is even. -/
theorem exists_great_of_round (large : 2 ^ 53 ≤ n)
    : ∃ m e, ∃ great : Great m e,
      UnpackedFloat.roundWithAccuracy .binary64 .positive (n <<< 53) (-53) .exact
        = .finite .positive m e great.pos := by
  obtain ⟨bits, isLog⟩ : ∃ bits, bits = n.log2 := ⟨_, rfl⟩
  have ⟨low, high⟩ := (Nat.log2_eq_iff (by omega)).mp isLog.symm
  have long : 53 ≤ bits := by
    rw [isLog]
    exact (Nat.le_log2 (by omega)).mpr large
  have shiftedLog : (n <<< 53).log2 = bits + 53 := by
    refine (Nat.log2_eq_iff (by rw [Nat.shiftLeft_eq]; omega)).mpr ⟨?_, ?_⟩
    · rw [Nat.shiftLeft_eq, Nat.pow_add]
      exact Nat.mul_le_mul_right _ low
    · rw [Nat.shiftLeft_eq, Nat.add_right_comm, Nat.pow_add]
      exact Nat.mul_lt_mul_of_pos_right high (by decide)
  have amount : (Format.binary64.targetExponent (totalExponent (n <<< 53) (-53)) - -53).toNat
      = bits + 1 := by
    rw [targetExponent_great shiftedLog (by omega)]
    omega
  obtain ⟨first, isFirst⟩ : ∃ first,
      first = UnpackedFloat.shiftToTargetExponent .binary64 (n <<< 53) (-53) .exact := ⟨_, rfl⟩
  have shifted : first.1.mantissa = n * 2 ^ 53 / 2 ^ (bits + 1) ∧ first.2 = (bits : Int) - 52 := by
    rw [isFirst, UnpackedFloat.shiftToTargetExponent, UnpackedFloat.shiftToExponent, amount,
      ← Nat.shiftLeft_eq]
    exact ⟨mantissa_repeat_shiftRightOne _ _, by dsimp only; omega⟩
  have bounds : 2 ^ 52 ≤ first.1.mantissa ∧ first.1.mantissa < 2 ^ 53 :=
    shifted.1 ▸ leading_bounds low high
  have rounded := roundedMantissa_bounds first.1
  have great := exists_great_of_rounded (m := first.1.roundedMantissa) (e := first.2) (by omega)
    (by omega) (by omega)
  refine ⟨_, _, great, ?_⟩
  unfold UnpackedFloat.roundWithAccuracy
  simp only [← isFirst]
  exact dif_neg great.pos.ne'

theorem ofFloat?_infinity (s : Sign)
    : Binary.ofFloat? (.ofModel (Float.Model.pack (.infinity s))) = none := by
  cases s <;> decide

/-- An exponent that is too great for the bit pattern leaves infinity. -/
theorem pack_great (great : Great m e) {s : Sign} (tooGreat : 972 ≤ e)
    : Float.Model.pack (.finite s m e great.pos) = Float.Model.pack (.infinity s) := by
  have packed : UnpackedFloat.pack .binary64 (.finite s m e great.pos)
      = UnpackedFloat.pack .binary64 (.infinity s) := by
    have bias : e + (Format.binary64.exponentBias : Int) + (52 : Nat) = e + 1075 := by
      simp only [Format.exponentBias]
      omega
    change (if 2 ^ Format.binary64.exponentBits
        ≤ (e + (Format.binary64.exponentBias : Int) + (52 : Nat)).toNat + 1 then _ else _) = _
    rw [bias, if_pos (by simp only; omega)]
    rfl
  unfold Float.Model.pack
  simp only [packed]

theorem unpack_pack_infinity (s : Sign)
    : (Float.Model.pack (.infinity s)).unpack = .infinity s := by
  cases s <;> rfl

theorem Great.normal (great : Great m e) (small : ¬972 ≤ e) : Normal m e :=
  ⟨great.wide, great.narrow, Int.le_trans (by decide) great.even, by omega⟩

/-- A double with such a number is infinite or an integer that is as great. -/
theorem Great.floor? (great : Great m e) (s : Sign)
    : floor? (.ofModel (Float.Model.pack (.finite s m e great.pos))) = none
      ∨ ∃ k, Number.floor? (.ofModel (Float.Model.pack (.finite s m e great.pos))) = some k
        ∧ 2 ^ 53 ≤ k.natAbs := by
  by_cases tooGreat : 972 ≤ e
  · refine .inl ?_
    rw [pack_great great tooGreat, Number.floor?, ofFloat?_infinity, Option.map_none]
  · refine .inr ⟨(⟨s.toBitVec = 1#1, m, e⟩ : Binary).floor, ?_, ?_⟩
    · rw [Number.floor?, (great.normal tooGreat).ofFloat?_pack, Option.map_some]
    · have ⟨wide, _, even⟩ := great
      have noDivisor : (-e).toNat = 0 := by omega
      have factor : 2 ^ 1 ≤ 2 ^ e.toNat := Nat.pow_le_pow_right (by decide) (by omega)
      have product : 2 ^ 52 * 2 ^ 1 ≤ m * 2 ^ e.toNat := Nat.mul_le_mul wide factor
      rw [Binary.floor, noDivisor, Nat.shiftLeft_zero, Nat.cast_one, Int.fdiv_one, Binary.signed,
        Int.shiftLeft_eq]
      split <;> simpa [Int.natAbs_mul, Int.natAbs_pow] using product

theorem neg_pack_great (great : Great m e)
    : -Float.ofModel (Float.Model.pack (.finite .positive m e great.pos))
      = .ofModel (Float.Model.pack (.finite .negative m e great.pos)) := by
  change Float.ofModel (Float.Model.pack (UnpackedFloat.neg (Float.Model.pack _).unpack)) = _
  by_cases tooGreat : 972 ≤ e
  · rw [pack_great great tooGreat, pack_great great tooGreat, unpack_pack_infinity]
    rfl
  · rw [(great.normal tooGreat).unpack_pack]
    rfl

theorem exists_great_ofNat (large : 2 ^ 53 ≤ n)
    : ∃ m e, ∃ great : Great m e,
      Float.ofNat n = .ofModel (Float.Model.pack (.finite .positive m e great.pos)) := by
  obtain ⟨m, e, great, rounded⟩ := exists_great_of_round large
  refine ⟨m, e, great, ?_⟩
  change Float.ofScientific n false 0 = _
  unfold Float.ofScientific
  rw [dif_neg (by omega)]
  change Float.ofModel (Float.Model.pack (UnpackedFloat.ofScientific .binary64 n 0)) = _
  have inRange : ¬(0 : Int) < -(2 ^ Format.binary64.exponentBits + (n.log2 : Int)) := by
    have bits : (0 : Int) ≤ 2 ^ Format.binary64.exponentBits := by decide
    omega
  unfold UnpackedFloat.ofScientific
  rw [dif_neg (by omega), if_neg (by decide), if_neg inRange, if_pos (Int.le_refl 0)]
  change Float.ofModel (Float.Model.pack (UnpackedFloat.roundWithAccuracy .binary64 .positive
    (n <<< 53 * 1) (-53) .exact)) = _
  rw [Nat.mul_one, rounded]

/-- An integer of more than 53 bits becomes a double that is as great, or infinite. -/
theorem floor?_ofInt_of_large {n : Int} (large : 2 ^ 53 ≤ n.natAbs)
    : floor? (Float.ofInt n) = none ∨ ∃ k, floor? (Float.ofInt n) = some k ∧ 2 ^ 53 ≤ k.natAbs := by
  obtain ⟨m, e, great, same⟩ := exists_great_ofNat large
  cases n with
  | ofNat n =>
    change floor? (Float.ofNat n) = none ∨ _
    change Float.ofNat n = _ at same
    have positive := great.floor? .positive
    rw [← same] at positive
    exact positive
  | negSucc n =>
    have negative := great.floor? .negative
    rw [← neg_pack_great great, ← same] at negative
    exact negative

/-- Of all integers only `n` itself becomes a double that has the small integer `n` below it. -/
theorem floor?_ofInt_eq_some_iff {n k : Int} (small : k.natAbs < 2 ^ 53)
    : floor? (Float.ofInt n) = some k ↔ n = k := by
  by_cases smallToo : n.natAbs < 2 ^ 53
  · rw [floor?_ofInt smallToo, Option.some.injEq]
  · refine iff_of_false (fun found => ?_) (by omega)
    rcases floor?_ofInt_of_large (Nat.not_lt.mp smallToo) with none | ⟨great, same, far⟩
    · rw [none] at found
      cases found
    · rw [same] at found
      cases found
      omega

theorem ofInt_inj {n k : Int} (small : k.natAbs < 2 ^ 53)
    : Float.ofInt n = Float.ofInt k ↔ n = k := by
  refine ⟨fun same => ?_, congrArg Float.ofInt⟩
  have floor := floor?_ofInt small
  rw [← same] at floor
  exact (floor?_ofInt_eq_some_iff small).mp floor

-- The floor as a double

namespace Binary

variable {b : Binary} {x : Float}

theorem mantissa_lt_of_ofFloat? (read : ofFloat? x = some b) : b.mantissa < 2 ^ 53 := by
  have fraction : x.toBits.toNat % (1 <<< 52) < 1 <<< 52 := Nat.mod_lt _ (by decide)
  simp only [ofFloat?] at read
  split at read
  · cases read
  · split at read <;> cases read <;> dsimp only <;> omega

/-- Without binary places there is nothing to cut off. -/
theorem floor_eq_truncate (whole : b.mantissa = 0 ∨ 0 ≤ b.exponent) : b.floor = b.truncate := by
  rcases whole with zero | noPlaces
  · have signed : b.signed = 0 := by simp [Binary.signed, zero]
    rw [floor, truncate, signed, Int.zero_shiftLeft, Int.zero_fdiv, Int.zero_tdiv]
  · have noDivisor : (-b.exponent).toNat = 0 := by omega
    rw [floor, truncate, noDivisor, Nat.shiftLeft_zero, Nat.cast_one, Int.fdiv_one, Int.tdiv_one]

theorem natAbs_floor_le (places : b.exponent < 0) : b.floor.natAbs ≤ b.mantissa := by
  have noFactor : b.exponent.toNat = 0 := by omega
  have divisor : (1 : Int) ≤ (1 <<< (-b.exponent).toNat : Nat) := by
    have positive := Nat.two_pow_pos (-b.exponent).toNat
    rw [Nat.shiftLeft_eq, Nat.one_mul]
    omega
  have size : b.signed.natAbs = b.mantissa := by
    rw [Binary.signed]
    split <;> omega
  rw [floor, noFactor, Int.shiftLeft_zero, Int.fdiv_eq_ediv_of_nonneg _ (by omega), ← size]
  exact Int.natAbs_ediv_le_natAbs _ _

end Binary

/-- The whole double below a number is the integer below it, as long as this is in range. -/
theorem clampToInt_floor_eq_iff {x : Float} (number : x.isNaN = false) {low high d : Int}
    (above : low < d) (below : d < high)
    : clampToInt low high (floor x) = d ↔ floor? x = some d := by
  unfold floor floor?
  cases read : Binary.ofFloat? x with
  | none =>
    unfold clampToInt
    simp only [read, number, Bool.false_eq_true, if_false, Option.map_none, reduceCtorEq, iff_false]
    split <;> omega
  | some b =>
    rw [Option.map_some, Option.some.injEq]
    dsimp only
    split
    · next whole =>
      simp only [Bool.or_eq_true, decide_eq_true_eq] at whole
      rw [Binary.floor_eq_truncate whole]
      unfold clampToInt
      simp only [read]
      omega
    · next fraction =>
      simp only [Bool.or_eq_true, decide_eq_true_eq, not_or, not_le] at fraction
      have small : b.floor.natAbs < 2 ^ 53 :=
        Nat.lt_of_le_of_lt (Binary.natAbs_floor_le fraction.2) (Binary.mantissa_lt_of_ofFloat? read)
      obtain ⟨b', read', _, truncate⟩ := ofFloat?_ofInt small
      unfold clampToInt
      simp only [read', truncate]
      omega

end Spreadsheet.Number
