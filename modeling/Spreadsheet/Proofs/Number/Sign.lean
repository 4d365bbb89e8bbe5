import Spreadsheet.Proofs.Number.Whole

/-! Numerals are read without a sign, and stand for numbers that have none. -/

namespace Spreadsheet.Number

open Float.Model (UnpackedFloat Format)

/-- There is no minus sign, not even that of a zero; NaN has no sign. -/
def unsigned : UnpackedFloat → Bool
  | .infinity .negative => false
  | .zero .negative => false
  | .finite .negative .. => false
  | _ => true

theorem cases_of_unsigned {u : UnpackedFloat} (h : unsigned u)
    : u = .notANumber ∨ u = .infinity .positive ∨ u = .zero .positive
      ∨ ∃ mantissa exponent pos, u = .finite .positive mantissa exponent pos := by
  cases u with
  | notANumber => exact .inl rfl
  | infinity s =>
    cases s with
    | negative => cases h
    | positive => exact .inr (.inl rfl)
  | zero s =>
    cases s with
    | negative => cases h
    | positive => exact .inr (.inr (.inl rfl))
  | finite s mantissa exponent pos =>
    cases s with
    | negative => cases h
    | positive => exact .inr (.inr (.inr ⟨mantissa, exponent, pos, rfl⟩))

-- The sign in the bit pattern

theorem unsigned_unpack {spec : Format} {b : BitVec spec.numBits}
    (clear : UnpackedFloat.unpackSign b = 0#1)
    : unsigned (UnpackedFloat.unpack spec b) := by
  have positive : UnpackedFloat.Sign.ofBitVec 0#1 = .positive := rfl
  simp only [UnpackedFloat.unpack, clear, positive]
  split
  · split <;> rfl
  · split
    · split <;> rfl
    · rfl

theorem unpackSign_pack {spec : Format} {u : UnpackedFloat} (h : unsigned u)
    : UnpackedFloat.unpackSign (u.pack spec) = 0#1 := by
  fun_cases UnpackedFloat.pack with
  | case1 => exact unpackSign_packComponents
  | _ s =>
    cases s with
    | negative => cases h
    | positive => exact unpackSign_packComponents

-- Operations

theorem unsigned_roundWithAccuracy (mantissa : Nat) (exponent : Int)
    (accuracy : UnpackedFloat.Accuracy)
    : unsigned
        (UnpackedFloat.roundWithAccuracy .binary64 .positive mantissa exponent accuracy) := by
  unfold UnpackedFloat.roundWithAccuracy
  dsimp only
  split <;> rfl

theorem unsigned_mul {u v : UnpackedFloat} (hu : unsigned u) (hv : unsigned v)
    : unsigned (UnpackedFloat.mul .binary64 u v) := by
  rcases cases_of_unsigned hu with rfl | rfl | rfl | ⟨m, e, pos, rfl⟩
  all_goals rcases cases_of_unsigned hv with rfl | rfl | rfl | ⟨m', e', pos', rfl⟩
  all_goals first | rfl | exact unsigned_roundWithAccuracy _ _ _

theorem unsigned_div {u v : UnpackedFloat} (hu : unsigned u) (hv : unsigned v)
    : unsigned (UnpackedFloat.div .binary64 u v) := by
  rcases cases_of_unsigned hu with rfl | rfl | rfl | ⟨m, e, pos, rfl⟩
  all_goals rcases cases_of_unsigned hv with rfl | rfl | rfl | ⟨m', e', pos', rfl⟩
  all_goals first | rfl | exact unsigned_roundWithAccuracy _ _ _

theorem unsigned_ofScientific (mantissa : Nat) (exponent : Int)
    : unsigned (UnpackedFloat.ofScientific .binary64 mantissa exponent) := by
  unfold UnpackedFloat.ofScientific
  split
  · rfl
  · split
    · rfl
    · split
      · rfl
      · split
        · exact unsigned_mul rfl rfl
        · exact unsigned_div rfl rfl

theorem unsigned_normalize (n : Nat)
    : unsigned (UnpackedFloat.normalize .binary64 n 0 .positive) := by
  unfold UnpackedFloat.normalize
  split
  · next negative => exact absurd (Int.compare_eq_lt.mp negative) (by omega)
  · rfl
  · exact unsigned_roundWithAccuracy _ _ _

-- Doubles

/-- The sign bit of a double is not set. -/
def Unsigned (x : Float) : Prop :=
  @UnpackedFloat.unpackSign .binary64 x.toModel.toBits.toBitVec = 0#1

variable {x y : Float}

theorem Unsigned.unpack (h : Unsigned x) : unsigned x.toModel.unpack :=
  unsigned_unpack h

theorem unsigned_ofModel {u : UnpackedFloat} (h : unsigned u)
    : Unsigned (.ofModel (Float.Model.pack u)) :=
  unpackSign_pack h

theorem Unsigned.mul (hx : Unsigned x) (hy : Unsigned y) : Unsigned (x * y) :=
  unsigned_ofModel (unsigned_mul hx.unpack hy.unpack)

theorem Unsigned.div (hx : Unsigned x) (hy : Unsigned y) : Unsigned (x / y) :=
  unsigned_ofModel (unsigned_div hx.unpack hy.unpack)

theorem unsigned_powerOfTen
    : ∀ e : Fin 23, Unsigned Float.exactlyRepresentablePowersOfTen[e] := by
  unfold Unsigned
  decide

/-- What is converted from decimal notation has no sign, whichever way it is computed. -/
theorem unsigned_float_ofScientific (mantissa : Nat) (negative : Bool) (exponent : Nat)
    : Unsigned (Float.ofScientific mantissa negative exponent) := by
  unfold Float.ofScientific
  split
  · next small =>
    have digits : Unsigned mantissa.toUInt64.toFloat := unsigned_ofModel (unsigned_normalize _)
    have power := unsigned_powerOfTen ⟨exponent, Nat.lt_succ_of_le small.2⟩
    dsimp only
    split
    · exact digits.div power
    · exact digits.mul power
  · exact unsigned_ofModel (unsigned_ofScientific _ _)

theorem Unsigned.toBits_lt (h : Unsigned x) : x.toBits.toNat < 2 ^ 63 := by
  have sign := congrArg BitVec.toNat h
  have bounded := x.toModel.toBits.toNat_lt
  change x.toModel.toBits.toNat < 2 ^ 63
  simp [UnpackedFloat.unpackSign, Nat.shiftRight_eq_div_pow] at sign
  omega

theorem Unsigned.nonneg (h : Unsigned x) (finite : x.isFinite) : 0 ≤ x := by
  have zero : (0 : Float).toModel.unpack = .zero .positive := by rfl
  change x.toModel.unpack.isFinite at finite
  change decide ((0 : Float).toModel.unpack.le x.toModel.unpack = true) = true
  rw [zero]
  rcases cases_of_unsigned h.unpack with same | same | same | ⟨m, e, pos, same⟩
  all_goals rw [same] at finite ⊢
  · cases finite
  · cases finite
  · rfl
  · rfl

/-- A number that a literal can stand for. -/
structure IsLiteral (x : Float) : Prop where
  finite : x.isFinite
  nonneg : 0 ≤ x
  noSign : x.toBits.toNat < 2 ^ 63

theorem isLiteral_of_toFloat? {cs : List Char} (h : Numeral.toFloat? cs = some x)
    : IsLiteral x := by
  have finite := isFinite_of_toFloat? h
  obtain ⟨d, _, h⟩ := Option.bind_eq_some_iff.mp h
  obtain ⟨_, same⟩ := Option.ite_none_right_eq_some.mp h
  have noSign : Unsigned x := Option.some.inj same ▸ unsigned_float_ofScientific _ _ _
  exact ⟨finite, noSign.nonneg finite, noSign.toBits_lt⟩

end Spreadsheet.Number
