import Mathlib
import Spreadsheet.Number.Numeral

/-! Which operations on doubles can give NaN. -/

namespace Spreadsheet.Number

open Float.Model (UnpackedFloat Format)

-- Packing and unpacking

theorem isNaN_unpack {spec : Format} {b : BitVec spec.numBits}
    : (UnpackedFloat.unpack spec b).isNaN
      ↔ UnpackedFloat.unpackExponent b = -1#_ ∧ UnpackedFloat.unpackMantissa b ≠ 0#_ := by
  simp only [UnpackedFloat.unpack]
  split
  · next top =>
    split
    · next zero => simp [UnpackedFloat.isNaN, top, zero]
    · next nonzero => simp [UnpackedFloat.isNaN, top, nonzero]
  · next below =>
    split
    · split <;> simp [UnpackedFloat.isNaN, below]
    · simp [UnpackedFloat.isNaN, below]

/-- Of numbers only the infinities have the greatest exponent, and these have no mantissa. -/
theorem unpackMantissa_pack {spec : Format} {u : UnpackedFloat} (number : u.isNaN = false)
    (top : UnpackedFloat.unpackExponent (u.pack spec) = -1#_)
    : UnpackedFloat.unpackMantissa (u.pack spec) = 0#_ := by
  revert top
  fun_cases UnpackedFloat.pack with
  | case1 => cases number
  | case2 s => simp [UnpackedFloat.packedInfinity]
  | case3 s => simp [UnpackedFloat.packedZero]
  | case4 s m e hm biased large => simp [UnpackedFloat.packedInfinity]
  | case5 s m e hm bits biased small normal =>
    intro top
    have same := congrArg BitVec.toNat top
    simp only [UnpackedFloat.unpackExponent_packComponents, BitVec.toNat_ofNat,
      BitVec.neg_one_eq_allOnes, BitVec.toNat_allOnes] at same
    rw [Nat.mod_eq_of_lt (by omega)] at same
    omega
  | case6 s m e hm bits biased small subnormal =>
    intro top
    have same := congrArg BitVec.toNat top
    have wide := Nat.one_lt_two_pow (Nat.ne_of_gt spec.he)
    simp only [UnpackedFloat.unpackExponent_packComponents, BitVec.toNat_ofNat,
      BitVec.neg_one_eq_allOnes, BitVec.toNat_allOnes, Nat.zero_mod] at same
    omega

/-- A number is packed as a number. -/
theorem isNaN_pack {u : UnpackedFloat} (number : u.isNaN = false)
    : (Float.Model.pack u).unpack.isNaN = false := by
  rw [Bool.eq_false_iff]
  intro packed
  obtain ⟨top, nonzero⟩ := isNaN_unpack.mp packed
  exact nonzero (unpackMantissa_pack number top)

theorem not_isNaN_of_isFinite {x : Float} (h : x.isFinite) : x.isNaN = false := by
  change x.toModel.unpack.isFinite at h
  change x.toModel.unpack.isNaN = false
  cases unpacked : x.toModel.unpack with
  | notANumber =>
    rw [unpacked] at h
    cases h
  | _ => rfl

theorem not_isNaN_neg {x : Float} (h : x.isNaN = false) : (-x).isNaN = false := by
  change x.toModel.unpack.isNaN = false at h
  refine isNaN_pack ?_
  cases unpacked : x.toModel.unpack with
  | notANumber =>
    rw [unpacked] at h
    cases h
  | _ => rfl

-- Operations

/-- Rounding gives a zero or a finite number. -/
theorem isNaN_roundWithAccuracy (sign : UnpackedFloat.Sign) (mantissa : Nat) (exponent : Int)
    (accuracy : UnpackedFloat.Accuracy)
    : (UnpackedFloat.roundWithAccuracy .binary64 sign mantissa exponent accuracy).isNaN
      = false := by
  unfold UnpackedFloat.roundWithAccuracy
  dsimp only
  split <;> rfl

/-- A finite number other than zero. -/
def IsUnit (x : Float) : Prop :=
  ∃ sign mantissa exponent pos, x.toModel.unpack = .finite sign mantissa exponent pos

theorem isUnit_of_isFinite {x : Float} (finite : x.isFinite) (nonzero : (x == 0) = false)
    : IsUnit x := by
  change x.toModel.unpack.isFinite at finite
  change x.toModel.unpack.beq (0 : Float).toModel.unpack = false at nonzero
  have zero : (0 : Float).toModel.unpack = .zero .positive := by rfl
  rw [zero] at nonzero
  cases unpacked : x.toModel.unpack with
  | finite sign m e pos => exact ⟨sign, m, e, pos, unpacked⟩
  | zero sign =>
    rw [unpacked] at nonzero
    cases nonzero
  | _ =>
    rw [unpacked] at finite
    cases finite

theorem not_isNaN_div {x y : Float} (h : x.isNaN = false) (unit : IsUnit y)
    : (x / y).isNaN = false := by
  change x.toModel.unpack.isNaN = false at h
  obtain ⟨sign, m, e, pos, right⟩ := unit
  have quotient
      : (UnpackedFloat.div .binary64 x.toModel.unpack y.toModel.unpack).isNaN = false := by
    rw [right]
    cases left : x.toModel.unpack with
    | notANumber =>
      rw [left] at h
      cases h
    | finite => exact isNaN_roundWithAccuracy _ _ _ _
    | _ => rfl
  exact isNaN_pack quotient

theorem not_isNaN_mul {x y : Float} (h : x.isNaN = false) (unit : IsUnit y)
    : (x * y).isNaN = false := by
  change x.toModel.unpack.isNaN = false at h
  obtain ⟨sign, m, e, pos, right⟩ := unit
  have product
      : (UnpackedFloat.mul .binary64 x.toModel.unpack y.toModel.unpack).isNaN = false := by
    rw [right]
    cases left : x.toModel.unpack with
    | notANumber =>
      rw [left] at h
      cases h
    | finite => exact isNaN_roundWithAccuracy _ _ _ _
    | _ => rfl
  exact isNaN_pack product

theorem not_isNaN_div_hundred {x : Float} (h : x.isNaN = false) : (x / 100).isNaN = false :=
  not_isNaN_div h (isUnit_of_isFinite (by decide) (by decide))

theorem isNaN_normalize (mantissa exponent : Int) (sign : UnpackedFloat.Sign)
    : (UnpackedFloat.normalize .binary64 mantissa exponent sign).isNaN = false := by
  unfold UnpackedFloat.normalize
  split
  · exact isNaN_roundWithAccuracy _ _ _ _
  · rfl
  · exact isNaN_roundWithAccuracy _ _ _ _

theorem isNaN_ofScientific (mantissa : Nat) (exponent : Int)
    : (UnpackedFloat.ofScientific .binary64 mantissa exponent).isNaN = false := by
  unfold UnpackedFloat.ofScientific
  split
  · rfl
  · split
    · rfl
    · split
      · rfl
      · split
        · exact isNaN_roundWithAccuracy _ _ _ _
        · exact isNaN_roundWithAccuracy _ _ _ _

theorem not_isNaN_ofNat (n : Nat) : (Float.ofNat n).isNaN = false := by
  change (Float.ofScientific n false 0).isNaN = false
  unfold Float.ofScientific
  split
  · have number : n.toUInt64.toFloat.isNaN = false := isNaN_pack (isNaN_normalize _ _ _)
    have unit : IsUnit (Float.ofBits 0x3FF0000000000000) :=
      isUnit_of_isFinite (by decide) (by decide)
    exact not_isNaN_mul number unit
  · exact isNaN_pack (isNaN_ofScientific n 0)

theorem not_isNaN_ofInt (n : Int) : (Float.ofInt n).isNaN = false := by
  cases n with
  | ofNat n => exact not_isNaN_ofNat n
  | negSucc n => exact not_isNaN_neg (not_isNaN_ofNat _)

-- Numerals

/-- Numerals stand for finite numbers only. -/
theorem isFinite_of_toFloat? {cs : List Char} {value : Float}
    (h : Numeral.toFloat? cs = some value)
    : value.isFinite := by
  unfold Numeral.toFloat? at h
  obtain ⟨d, _, h⟩ := Option.bind_eq_some_iff.mp h
  dsimp only at h
  split at h
  · next finite =>
    cases h
    exact finite
  · cases h

theorem not_isNaN_parse? {text : String} {x : Float} (h : parse? text = some x)
    : x.isNaN = false := by
  unfold parse? at h
  split at h
  · obtain ⟨y, read, rfl⟩ := Option.map_eq_some_iff.mp h
    exact not_isNaN_neg (not_isNaN_of_isFinite (isFinite_of_toFloat? read))
  · exact not_isNaN_of_isFinite (isFinite_of_toFloat? h)
  · exact not_isNaN_of_isFinite (isFinite_of_toFloat? h)

end Spreadsheet.Number
