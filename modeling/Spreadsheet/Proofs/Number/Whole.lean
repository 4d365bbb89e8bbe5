import Spreadsheet.Number.Binary
import Spreadsheet.Proofs.Number.NotANumber

/-! Integers of at most 53 bits are doubles exactly: what is read off the double of such a number is
the number again.
-/

namespace Spreadsheet.Number

open Float.Model (UnpackedFloat Format totalExponent)
open Float.Model.UnpackedFloat (Sign ExtendedMantissa)

/-- The mantissa has 53 bits and the exponent is that of a normal number. -/
structure Normal (mantissa : Nat) (exponent : Int) : Prop where
  wide : 2 ^ 52 ≤ mantissa
  narrow : mantissa < 2 ^ 53
  least : -1074 ≤ exponent
  greatest : exponent ≤ 971

section

variable {m : Nat} {e : Int} {s : Sign}

theorem Normal.pos (h : Normal m e) : 0 < m :=
  Nat.lt_of_lt_of_le (by decide) h.wide

theorem Normal.log2_mul (h : Normal m e) (n : Nat) : (m * 2 ^ n).log2 = 52 + n := by
  refine (Nat.log2_eq_iff (Nat.mul_pos h.pos (Nat.two_pow_pos n)).ne').mpr ⟨?_, ?_⟩
  · rw [Nat.pow_add]
    exact Nat.mul_le_mul_right _ h.wide
  · rw [Nat.add_right_comm, Nat.pow_add]
    exact Nat.mul_lt_mul_of_pos_right h.narrow (Nat.two_pow_pos n)

theorem Normal.log2 (h : Normal m e) : m.log2 = 52 := by
  simpa using h.log2_mul 0

-- Rounding

theorem repeat_shiftRightOne (m n : Nat)
    : Nat.repeat ExtendedMantissa.shiftRightOne n ⟨m * 2 ^ n, false, false⟩
      = ⟨m, false, false⟩ := by
  induction n generalizing m with
  | zero => simp [Nat.repeat]
  | succ n ih =>
    have doubled : m * 2 ^ (n + 1) = m * 2 * 2 ^ n := by
      rw [Nat.pow_succ, Nat.mul_assoc, Nat.mul_comm 2]
    rw [Nat.repeat, doubled, ih]
    simp [ExtendedMantissa.shiftRightOne]

theorem Normal.targetExponent (h : Normal m e) (n : Nat)
    : Format.binary64.targetExponent (totalExponent (m * 2 ^ n) (e - n)) = e := by
  have least := h.least
  rw [totalExponent, h.log2_mul, Format.targetExponent, Format.minExponent, Format.mantissaBits]
  dsimp only
  omega

theorem Normal.shiftToTargetExponent (h : Normal m e) (n : Nat)
    : UnpackedFloat.shiftToTargetExponent .binary64 (m * 2 ^ n) (e - n) .exact
      = (⟨m, false, false⟩, e) := by
  have shift : (e - (e - n)).toNat = n := by omega
  have back : e - n + n = e := by omega
  rw [UnpackedFloat.shiftToTargetExponent, h.targetExponent, UnpackedFloat.shiftToExponent, shift,
    back]
  exact congrArg (·, e) (repeat_shiftRightOne m n)

/-- A normal number with zeros behind its mantissa is rounded to itself. -/
theorem Normal.roundWithAccuracy (h : Normal m e) (n : Nat)
    : UnpackedFloat.roundWithAccuracy .binary64 s (m * 2 ^ n) (e - n) .exact
      = .finite s m e h.pos := by
  have again := h.shiftToTargetExponent 0
  rw [Nat.pow_zero, Nat.mul_one, Int.natCast_zero, Int.sub_zero] at again
  have rounded : ExtendedMantissa.roundedMantissa ⟨m, false, false⟩ = m := rfl
  unfold UnpackedFloat.roundWithAccuracy
  simp only [h.shiftToTargetExponent, rounded, again]
  exact dif_neg h.pos.ne'

-- Packing

/-- The exponent as the bit pattern holds it. -/
theorem Normal.biased (h : Normal m e)
    : (BitVec.ofNat 11 (e + 1075).toNat).toNat = (e + 1075).toNat
      ∧ 1 ≤ (e + 1075).toNat ∧ (e + 1075).toNat ≤ 2046 := by
  have ⟨_, _, least, greatest⟩ := h
  rw [BitVec.toNat_ofNat, Nat.mod_eq_of_lt] <;> omega

/-- The mantissa is its lower bits with a leading one. -/
theorem Normal.implicit (h : Normal m e) : (1#1 ++ BitVec.ofNat 52 m).toNat = m := by
  have ⟨wide, narrow, _, _⟩ := h
  rw [BitVec.toNat_append, ← Nat.shiftLeft_add_eq_or_of_lt (BitVec.isLt _), BitVec.toNat_ofNat]
  simp only [BitVec.toNat_ofNat, Nat.shiftLeft_eq]
  omega

theorem Normal.pack (h : Normal m e)
    : UnpackedFloat.pack .binary64 (.finite s m e h.pos)
      = UnpackedFloat.packComponents .binary64 s (BitVec.ofNat 11 (e + 1075).toNat)
        (BitVec.ofNat 52 m) := by
  have ⟨_, _, greatest⟩ := h.biased
  have bias : e + (Format.binary64.exponentBias : Int) + (52 : Nat) = e + 1075 := by
    simp only [Format.exponentBias]
    omega
  unfold UnpackedFloat.pack
  simp only [h.log2]
  rw [bias, if_neg (by omega), if_pos (by decide)]

theorem unpackSign_packComponents {spec : Format} {exponent : BitVec spec.exponentBits}
    {mantissa : BitVec spec.mantissaBitsWithoutImplicit}
    : UnpackedFloat.unpackSign (UnpackedFloat.packComponents spec s exponent mantissa)
      = s.toBitVec := by
  ext i bound
  obtain rfl : i = 0 := by omega
  simp [UnpackedFloat.unpackSign, UnpackedFloat.packComponents, BitVec.getLsbD_append,
    BitVec.getElem_append]

/-- What is packed as a normal number is unpacked as the same. -/
theorem Normal.unpack_pack (h : Normal m e)
    : (Float.Model.pack (.finite s m e h.pos)).unpack = .finite s m e h.pos := by
  obtain ⟨same, least, greatest⟩ := h.biased
  have below : BitVec.ofNat 11 (e + 1075).toNat ≠ -1#11 := by
    refine fun top => absurd (congrArg BitVec.toNat top) ?_
    rw [same, show (-1#11).toNat = 2047 from rfl]
    omega
  have above : BitVec.ofNat 11 (e + 1075).toNat ≠ 0#11 := by
    refine fun bottom => absurd (congrArg BitVec.toNat bottom) ?_
    rw [same, BitVec.toNat_zero]
    omega
  have sign : Sign.ofBitVec s.toBitVec = s := by cases s <;> rfl
  change UnpackedFloat.unpack .binary64 (UnpackedFloat.pack .binary64 (.finite s m e h.pos)) = _
  unfold UnpackedFloat.unpack
  simp only [h.pack, UnpackedFloat.unpackExponent_packComponents,
    UnpackedFloat.unpackMantissa_packComponents, unpackSign_packComponents, sign, below, above,
    if_false, same, h.implicit]
  have exponent : ((e + 1075).toNat : Int) - (Format.binary64.exponentBias + (52 : Nat)) = e := by
    simp only [Format.exponentBias]
    omega
  rw [exponent]

theorem toNat_packComponents (s : Sign) (exponent : BitVec 11) (mantissa : BitVec 52)
    : (UnpackedFloat.packComponents .binary64 s exponent mantissa).toNat
      = s.toBitVec.toNat * 2 ^ 63 + exponent.toNat * 2 ^ 52 + mantissa.toNat := by
  rw [UnpackedFloat.packComponents, BitVec.toNat_append, BitVec.toNat_append,
    ← Nat.shiftLeft_add_eq_or_of_lt (BitVec.isLt _),
    ← Nat.shiftLeft_add_eq_or_of_lt (BitVec.isLt _)]
  simp only [Nat.shiftLeft_eq]
  omega

/-- A normal number is read off its bit pattern as it was written there. -/
theorem Normal.ofFloat?_pack (h : Normal m e)
    : Binary.ofFloat? (.ofModel (Float.Model.pack (.finite s m e h.pos)))
      = some ⟨s.toBitVec = 1#1, m, e⟩ := by
  obtain ⟨same, least, greatest⟩ := h.biased
  have ⟨wide, narrow, _, _⟩ := h
  obtain ⟨pattern, isPattern⟩ : ∃ pattern, pattern
      = s.toBitVec.toNat * 2 ^ 63 + (e + 1075).toNat * 2 ^ 52 + m % 2 ^ 52 := ⟨_, rfl⟩
  have bits : (Float.toBits (.ofModel (Float.Model.pack (.finite s m e h.pos)))).toNat
      = pattern := by
    change (UnpackedFloat.pack .binary64 (.finite s m e h.pos)).toNat = _
    rw [h.pack, toNat_packComponents, same, BitVec.toNat_ofNat]
    exact isPattern.symm
  have field : pattern / 2 ^ 52 % 2 ^ 11 = (e + 1075).toNat := by omega
  have fraction : 2 ^ 52 + pattern % 2 ^ 52 = m := by omega
  have negative : decide (2 ^ 63 ≤ pattern) = decide (s.toBitVec = 1#1) := by
    have one : (1#1).toNat = 1 := rfl
    have sign := s.toBitVec.isLt
    rw [decide_eq_decide, ← BitVec.toNat_inj, one]
    omega
  have exponent : ((e + 1075).toNat : Int) - 1075 = e := by omega
  unfold Binary.ofFloat?
  simp only [bits, Nat.shiftRight_eq_div_pow, Nat.shiftLeft_eq, Nat.one_mul, field, fraction,
    negative, exponent]
  rw [if_neg (by omega), if_neg (by omega)]

theorem normal_one : Normal (2 ^ 52) (-52) := by
  refine ⟨?_, ?_, ?_, ?_⟩ <;> decide

/-- A normal number times one is packed as it is. -/
theorem Normal.mul_one (h : Normal m e)
    : Float.ofModel (Float.Model.pack (.finite .positive m e h.pos))
        * Float.ofBits 0x3FF0000000000000
      = .ofModel (Float.Model.pack (.finite .positive m e h.pos)) := by
  have one : Float.ofBits 0x3FF0000000000000
      = .ofModel (Float.Model.pack (.finite .positive (2 ^ 52) (-52) normal_one.pos)) := by
    decide
  rw [one]
  change Float.ofModel (Float.Model.pack (UnpackedFloat.mul .binary64
    (Float.Model.pack (.finite .positive m e h.pos)).unpack
    (Float.Model.pack (.finite .positive (2 ^ 52) (-52) normal_one.pos)).unpack)) = _
  rw [h.unpack_pack, normal_one.unpack_pack]
  exact congrArg (fun u => Float.ofModel (Float.Model.pack u)) (h.roundWithAccuracy 52)

/-- A normal number times one with a sign is the same number with that sign. -/
theorem Normal.signed_one_mul (h : Normal m e) (s : Sign)
    : Float.ofModel (Float.Model.pack (.finite s (2 ^ 52) (-52) normal_one.pos))
        * .ofModel (Float.Model.pack (.finite .positive m e h.pos))
      = .ofModel (Float.Model.pack (.finite s m e h.pos)) := by
  have sign : s * .positive = s := by cases s <;> rfl
  have product : UnpackedFloat.roundWithAccuracy .binary64 s (2 ^ 52 * m) (-52 + e) .exact
      = .finite s m e h.pos := by
    rw [Nat.mul_comm, Int.add_comm]
    exact h.roundWithAccuracy 52
  change Float.ofModel (Float.Model.pack (UnpackedFloat.mul .binary64
    (Float.Model.pack (.finite s (2 ^ 52) (-52) normal_one.pos)).unpack
    (Float.Model.pack (.finite .positive m e h.pos)).unpack)) = _
  rw [h.unpack_pack, normal_one.unpack_pack]
  change Float.ofModel (Float.Model.pack (UnpackedFloat.roundWithAccuracy .binary64 (s * .positive)
    (2 ^ 52 * m) (-52 + e) .exact)) = _
  rw [sign, product]

end

-- Whole numbers

/-- The bits that a natural leaves of the 53 bits of a mantissa. -/
def spareBits (n : Nat) : Nat :=
  52 - n.log2

section

variable {n : Nat}

theorem spareBits_eq (positive : 0 < n) (small : n < 2 ^ 53)
    : (spareBits n : Int) = 52 - n.log2 := by
  have := (Nat.log2_lt positive.ne').mpr small
  rw [spareBits]
  omega

/-- A natural of at most 53 bits is a normal number. -/
theorem normal_spareBits (positive : 0 < n) (small : n < 2 ^ 53)
    : Normal (n * 2 ^ spareBits n) (-spareBits n) := by
  have ⟨low, high⟩ := (Nat.log2_eq_iff positive.ne').mp (rfl : n.log2 = n.log2)
  have spare := spareBits_eq positive small
  refine ⟨?_, ?_, by omega, by omega⟩
  · calc 2 ^ 52 = 2 ^ n.log2 * 2 ^ spareBits n := by rw [← Nat.pow_add]; congr 1; omega
      _ ≤ n * 2 ^ spareBits n := Nat.mul_le_mul_right _ low
  · calc n * 2 ^ spareBits n < 2 ^ (n.log2 + 1) * 2 ^ spareBits n :=
          Nat.mul_lt_mul_of_pos_right high (Nat.two_pow_pos _)
      _ = 2 ^ 53 := by rw [← Nat.pow_add]; congr 1; omega

/-- A natural of at most 53 bits is brought to 53 bits, with nothing to round. -/
theorem normalize_natCast (positive : 0 < n) (small : n < 2 ^ 53)
    : UnpackedFloat.normalize .binary64 n 0 .positive
      = .finite .positive (n * 2 ^ spareBits n) (-spareBits n)
        (normal_spareBits positive small).pos := by
  have rounded := (normal_spareBits positive small).roundWithAccuracy (s := .positive) 0
  rw [Nat.pow_zero, Nat.mul_one, Int.natCast_zero, Int.sub_zero] at rounded
  have spare := spareBits_eq positive small
  have greater : compare (n : Int) 0 = .gt := Int.compare_eq_gt.mpr (Int.natCast_pos.mpr positive)
  have target : Format.binary64.targetExponent (totalExponent n 0) = -spareBits n := by
    rw [totalExponent, Format.targetExponent, Format.minExponent, Format.mantissaBits]
    dsimp only
    omega
  unfold UnpackedFloat.normalize
  rw [greater]
  simp only [UnpackedFloat.round, UnpackedFloat.decreaseExponent, Int.toNat_natCast, target,
    Nat.shiftLeft_eq, Int.zero_sub, Int.neg_neg, rounded]

theorem toFloat_toUInt64 (positive : 0 < n) (small : n < 2 ^ 53)
    : n.toUInt64.toFloat
      = .ofModel (Float.Model.pack (.finite .positive (n * 2 ^ spareBits n) (-spareBits n)
        (normal_spareBits positive small).pos)) := by
  have kept : n.toUInt64.toNat = n := by
    rw [Nat.toUInt64_eq, UInt64.toNat_ofNat', Nat.mod_eq_of_lt (by omega)]
  rw [← normalize_natCast positive small]
  change Float.ofModel (Float.Model.pack
    (UnpackedFloat.normalize .binary64 n.toUInt64.toNat 0 .positive)) = _
  rw [kept]

theorem ofNat_eq (positive : 0 < n) (small : n < 2 ^ 53)
    : Float.ofNat n
      = .ofModel (Float.Model.pack (.finite .positive (n * 2 ^ spareBits n) (-spareBits n)
        (normal_spareBits positive small).pos)) := by
  change Float.ofScientific n false 0 = _
  unfold Float.ofScientific
  rw [dif_pos ⟨small, by decide⟩]
  change n.toUInt64.toFloat * Float.ofBits 0x3FF0000000000000 = _
  rw [toFloat_toUInt64 positive small, (normal_spareBits positive small).mul_one]

theorem isFinite_ofNat (small : n < 2 ^ 53) : (Float.ofNat n).isFinite := by
  rcases Nat.eq_zero_or_pos n with rfl | positive
  · decide
  · rw [ofNat_eq positive small]
    change (Float.Model.pack _).unpack.isFinite
    rw [(normal_spareBits positive small).unpack_pack]
    rfl

/-- The double of a natural but zero has the opposite one with the other sign. -/
theorem neg_ofNat (positive : 0 < n) (small : n < 2 ^ 53)
    : -Float.ofNat n
      = .ofModel (Float.Model.pack (.finite .negative (n * 2 ^ spareBits n) (-spareBits n)
        (normal_spareBits positive small).pos)) := by
  rw [ofNat_eq positive small]
  change Float.ofModel (Float.Model.pack (UnpackedFloat.neg (Float.Model.pack _).unpack)) = _
  rw [(normal_spareBits positive small).unpack_pack]
  rfl

theorem one_mul_ofNat (small : n < 2 ^ 53) : 1 * Float.ofNat n = Float.ofNat n := by
  have one : (1 : Float)
      = .ofModel (Float.Model.pack (.finite .positive (2 ^ 52) (-52) normal_one.pos)) := by
    decide
  rcases Nat.eq_zero_or_pos n with rfl | positive
  · decide
  · rw [ofNat_eq positive small, one, (normal_spareBits positive small).signed_one_mul]

theorem neg_one_mul_ofNat (small : n < 2 ^ 53) : -1 * Float.ofNat n = -Float.ofNat n := by
  have one : (-1 : Float)
      = .ofModel (Float.Model.pack (.finite .negative (2 ^ 52) (-52) normal_one.pos)) := by
    decide
  rcases Nat.eq_zero_or_pos n with rfl | positive
  · decide
  · rw [neg_ofNat positive small, ofNat_eq positive small, one,
      (normal_spareBits positive small).signed_one_mul]

theorem neg_neg_ofNat (small : n < 2 ^ 53) : - -Float.ofNat n = Float.ofNat n := by
  rcases Nat.eq_zero_or_pos n with rfl | positive
  · decide
  · have normal := normal_spareBits positive small
    rw [neg_ofNat positive small, ofNat_eq positive small]
    change Float.ofModel (Float.Model.pack (UnpackedFloat.neg (Float.Model.pack _).unpack)) = _
    rw [normal.unpack_pack]
    rfl

theorem isFinite_neg_ofNat (small : n < 2 ^ 53) : (-Float.ofNat n).isFinite := by
  rcases Nat.eq_zero_or_pos n with rfl | positive
  · decide
  · rw [neg_ofNat positive small]
    change (Float.Model.pack _).unpack.isFinite
    rw [(normal_spareBits positive small).unpack_pack]
    rfl

/-- What is read off a natural with zeros behind it is the natural. -/
theorem floor_shifted (n k : Nat) (negative : Bool)
    : let b : Binary := ⟨negative, n * 2 ^ k, -k⟩
      let value : Int := if negative then -n else n
      b.floor = value ∧ b.truncate = value := by
  intro b value
  have divisor : ((1 <<< k : Nat) : Int) ≠ 0 := by simp [Nat.shiftLeft_eq]
  have shift : (-(k : Int)).toNat = 0 := by omega
  have signed : b.signed <<< (-(k : Int)).toNat = value * (1 <<< k : Nat) := by
    cases negative <;> simp [b, value, Binary.signed, shift, Nat.shiftLeft_eq]
  rw [Binary.floor, Binary.truncate, signed, Int.neg_neg, Int.toNat_natCast]
  exact ⟨Int.mul_fdiv_cancel _ divisor, Int.mul_tdiv_cancel _ divisor⟩

end

-- Integers

variable {n : Int}

theorem isFinite_ofInt (nonneg : 0 ≤ n) (small : n < 2 ^ 53) : (Float.ofInt n).isFinite := by
  lift n to Nat using nonneg
  exact isFinite_ofNat (by exact_mod_cast small)

/-- The double of an integer of at most 53 bits has that value. -/
theorem ofFloat?_ofInt (small : n.natAbs < 2 ^ 53)
    : ∃ b, Binary.ofFloat? (Float.ofInt n) = some b ∧ b.floor = n ∧ b.truncate = n := by
  obtain ⟨k, rfl | rfl⟩ := n.eq_nat_or_neg
  · rw [Int.natAbs_natCast] at small
    rcases Nat.eq_zero_or_pos k with rfl | positive
    · exact ⟨⟨false, 0, -1074⟩, by decide, by decide, by decide⟩
    · refine ⟨⟨false, k * 2 ^ spareBits k, -spareBits k⟩, ?_, floor_shifted k _ false⟩
      change Binary.ofFloat? (Float.ofNat k) = _
      rw [ofNat_eq positive small, (normal_spareBits positive small).ofFloat?_pack]
      rfl
  · rw [Int.natAbs_neg, Int.natAbs_natCast] at small
    rcases Nat.eq_zero_or_pos k with rfl | positive
    · exact ⟨⟨false, 0, -1074⟩, by decide, by decide, by decide⟩
    · refine ⟨⟨true, k * 2 ^ spareBits k, -spareBits k⟩, ?_, floor_shifted k _ true⟩
      obtain ⟨k, rfl⟩ := Nat.exists_eq_succ_of_ne_zero positive.ne'
      change Binary.ofFloat? (-Float.ofNat (k + 1)) = _
      rw [neg_ofNat positive small, (normal_spareBits positive small).ofFloat?_pack]
      rfl

end Spreadsheet.Number
