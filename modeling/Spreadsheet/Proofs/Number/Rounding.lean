import Mathlib
import Spreadsheet.Number.Decimal

/-! Rounding to so many significant digits. Of all decimals of one length the rounded one is nearest
to the number, and it is the one with an even last digit where two are as near; no other is both.
-/

namespace Spreadsheet.Number

-- Decimals of a given length

/-- The number with these digits, of which so many stand behind the point of the leading one. -/
def scientificValue (places : Nat) (digits exponent : Int) : ℚ :=
  digits * 10 ^ (exponent - places)

/-- Besides the leading digit, which is not zero, there are as many digits as places. -/
structure HasPlaces (places : Nat) (digits : Int) : Prop where
  wide : 10 ^ places ≤ |digits|
  narrow : |digits| < 10 ^ (places + 1)

/-- Digits and the exponent of the leading one are those of `q` rounded to so many places: there is
no nearer decimal of that length, and none other as near unless the last digit is even.
-/
structure RoundsTo (places : Nat) (q : ℚ) (digits exponent : Int) : Prop where
  length : HasPlaces places digits
  nearest (digits' exponent' : Int) (length' : HasPlaces places digits')
    : |q - scientificValue places digits exponent| ≤ |q - scientificValue places digits' exponent'|
  even (digits' exponent' : Int) (length' : HasPlaces places digits')
    (other : (digits', exponent') ≠ (digits, exponent))
    (tie : |q - scientificValue places digits exponent|
      = |q - scientificValue places digits' exponent'|)
    : Even digits

variable {places : Nat} {q : ℚ} {digits digits' exponent exponent' leading count : Int}

theorem power_pos (n : Int) : (0 : ℚ) < 10 ^ n :=
  zpow_pos (by norm_num) n

/-- A power is a quotient of two with natural exponents. -/
theorem zpow_eq_div {base : ℚ} (nonzero : base ≠ 0) (n : Int)
    : base ^ n = base ^ n.toNat / base ^ (-n).toNat := by
  have signs : n = n.toNat - (-n).toNat := by omega
  conv_lhs => rw [signs]
  rw [zpow_sub₀ nonzero, zpow_natCast, zpow_natCast]

/-- Ten to the leading exponent, counted in units of the last place. -/
theorem power_eq_mul_unit (places : Nat) (exponent : Int)
    : (10 : ℚ) ^ exponent = 10 ^ places * 10 ^ (exponent - places) := by
  rw [← zpow_natCast, ← zpow_add₀ (by norm_num)]
  congr 1
  omega

theorem power_succ_eq_mul_unit (places : Nat) (exponent : Int)
    : (10 : ℚ) ^ (exponent + 1) = 10 ^ (places + 1) * 10 ^ (exponent - places) := by
  rw [power_eq_mul_unit (places + 1) (exponent + 1)]
  congr 2
  push_cast
  ring

theorem HasPlaces.cast (h : HasPlaces places digits)
    : (10 : ℚ) ^ places ≤ |(digits : ℚ)| ∧ |(digits : ℚ)| < 10 ^ (places + 1) :=
  ⟨by exact_mod_cast h.wide, by exact_mod_cast h.narrow⟩

/-- A decimal is at least the power of ten that its exponent gives, and less than the next one. -/
theorem HasPlaces.bounds (h : HasPlaces places digits) (exponent : Int)
    : 10 ^ exponent ≤ |scientificValue places digits exponent|
      ∧ |scientificValue places digits exponent| < 10 ^ (exponent + 1) := by
  obtain ⟨wide, narrow⟩ := h.cast
  have unit := power_pos (exponent - places)
  rw [scientificValue, abs_mul, abs_of_pos unit, power_eq_mul_unit places exponent,
    power_succ_eq_mul_unit places exponent]
  exact ⟨mul_le_mul_of_nonneg_right wide unit.le, mul_lt_mul_of_pos_right narrow unit⟩

/-- Digits of a given length are told by the number they make up. -/
theorem HasPlaces.eq_of_value (h : HasPlaces places digits) (h' : HasPlaces places digits')
    (same : scientificValue places digits exponent = scientificValue places digits' exponent')
    : digits = digits' ∧ exponent = exponent' := by
  have bounds := h.bounds exponent
  have bounds' := h'.bounds exponent'
  rw [same] at bounds
  have below : exponent < exponent' + 1 :=
    (zpow_lt_zpow_iff_right₀ (by norm_num)).mp (bounds.1.trans_lt bounds'.2)
  have above : exponent' < exponent + 1 :=
    (zpow_lt_zpow_iff_right₀ (by norm_num)).mp (bounds'.1.trans_lt bounds.2)
  obtain rfl : exponent = exponent' := by omega
  have unit := power_pos (exponent - places)
  exact ⟨by exact_mod_cast mul_right_cancel₀ unit.ne' same, rfl⟩

-- Signs

theorem scientificValue_neg (places : Nat) (digits exponent : Int)
    : scientificValue places (-digits) exponent = -scientificValue places digits exponent := by
  simp [scientificValue]

theorem HasPlaces.neg (h : HasPlaces places digits) : HasPlaces places (-digits) :=
  ⟨by rw [abs_neg]; exact h.wide, by rw [abs_neg]; exact h.narrow⟩

theorem abs_neg_sub_scientificValue (places : Nat) (q : ℚ) (digits exponent : Int)
    : |-q - scientificValue places digits exponent|
      = |q - scientificValue places (-digits) exponent| := by
  rw [scientificValue_neg, ← abs_neg]
  congr 1
  ring

/-- Rounding does not depend on the sign. -/
theorem RoundsTo.neg (h : RoundsTo places q digits exponent)
    : RoundsTo places (-q) (-digits) exponent := by
  refine ⟨h.length.neg, fun digits' exponent' length' => ?_,
    fun digits' exponent' length' other tie => ?_⟩
  · rw [abs_neg_sub_scientificValue, abs_neg_sub_scientificValue, neg_neg]
    exact h.nearest (-digits') exponent' length'.neg
  · rw [abs_neg_sub_scientificValue, abs_neg_sub_scientificValue, neg_neg] at tie
    refine (h.even (-digits') exponent' length'.neg (fun same => other ?_) tie).neg
    obtain ⟨rfl, rfl⟩ := Prod.mk.inj same
    rw [neg_neg]

/-- A number that is a decimal of the length is rounded to itself. -/
theorem RoundsTo.eq_of_value (h : RoundsTo places q digits exponent)
    (length : HasPlaces places digits') (same : scientificValue places digits' exponent' = q)
    : digits = digits' ∧ exponent = exponent' := by
  have nearest := h.nearest digits' exponent' length
  rw [same, sub_self, abs_zero, abs_nonpos_iff, sub_eq_zero] at nearest
  exact h.length.eq_of_value length (nearest.symm.trans same.symm)

-- The nearest multiple of a unit

/-- So many units are as near to `q` as any, and an even number of them if two are. -/
structure NearestCount (unit q : ℚ) (count : Int) : Prop where
  near : |q - count * unit| ≤ unit / 2
  even : |q - count * unit| = unit / 2 → Even count

section

variable {unit : ℚ} {other : Int}

theorem NearestCount.of_lt (near : |q - count * unit| < unit / 2) : NearestCount unit q count :=
  ⟨near.le, fun tie => absurd tie near.ne⟩

/-- `q` is between two multiples of the unit or further off than they are apart. -/
theorem abs_sub_mul_unit_le (positive : 0 < unit) (q : ℚ) (count other : Int)
    : |(other : ℚ) - count| * unit ≤ |q - count * unit| + |q - other * unit| :=
  calc |(other : ℚ) - count| * unit
      = |other * unit - count * unit| := by rw [← sub_mul, abs_mul, abs_of_pos positive]
    _ ≤ |other * unit - q| + |q - count * unit| := abs_sub_le _ _ _
    _ = |q - count * unit| + |q - other * unit| := by rw [abs_sub_comm _ q, add_comm]

/-- Of two counts that are as near one is even and the other is not, as they follow each other. -/
theorem NearestCount.lt_or_tie (h : NearestCount unit q count) (positive : 0 < unit)
    (apart : other ≠ count)
    : |q - count * unit| < |q - other * unit|
      ∨ |q - count * unit| = |q - other * unit| ∧ Even count ∧ ¬Even other := by
  have far := abs_sub_mul_unit_le positive q count other
  have one : (1 : ℚ) ≤ |(other : ℚ) - count| := by
    exact_mod_cast Int.one_le_abs (sub_ne_zero.mpr apart)
  have step : unit ≤ |(other : ℚ) - count| * unit := le_mul_of_one_le_left positive.le one
  have near := h.near
  rcases lt_or_ge |q - count * unit| |q - other * unit| with nearer | tie
  · exact .inl nearer
  · have half : |q - count * unit| = unit / 2 := by linarith
    have same : |q - count * unit| = |q - other * unit| := by linarith
    have even := h.even half
    refine .inr ⟨same, even, fun evenToo => ?_⟩
    -- Both are half a unit off, so that they follow each other.
    have next : |(other : ℚ) - count| ≤ 1 := by
      refine le_of_mul_le_mul_right ?_ positive
      linarith
    have ⟨_, _⟩ : -1 ≤ other - count ∧ other - count ≤ 1 := abs_le.mp (by exact_mod_cast next)
    obtain ⟨a, rfl⟩ := even
    obtain ⟨b, rfl⟩ := evenToo
    omega

theorem NearestCount.le (h : NearestCount unit q count) (positive : 0 < unit) (other : Int)
    : |q - count * unit| ≤ |q - other * unit| := by
  rcases eq_or_ne other count with rfl | apart
  · exact le_rfl
  · rcases h.lt_or_tie positive apart with nearer | ⟨same, _⟩
    · exact nearer.le
    · exact same.le

theorem NearestCount.unique (h : NearestCount unit q count) (h' : NearestCount unit q other)
    (positive : 0 < unit)
    : other = count := by
  by_contra apart
  rcases h.lt_or_tie positive apart with nearer | ⟨same, _, odd⟩
  · exact absurd (h'.le positive count) (not_le.mpr nearer)
  · rcases h'.lt_or_tie positive (Ne.symm apart) with nearer | ⟨_, even, _⟩
    · exact absurd same.le (not_le.mpr nearer)
    · exact odd even

/-- Counting is the same in any unit. -/
theorem NearestCount.scale (h : NearestCount 1 (q / unit) count) (positive : 0 < unit)
    : NearestCount unit q count := by
  have distance : |q - count * unit| = |q / unit - count * 1| * unit := by
    rw [← abs_of_pos positive, ← abs_mul, abs_of_pos positive, sub_mul, mul_one,
      div_mul_cancel₀ _ positive.ne']
  constructor
  · rw [distance]
    have near := mul_le_mul_of_nonneg_right h.near positive.le
    linarith
  · intro tie
    refine h.even (mul_right_cancel₀ positive.ne' ?_)
    rw [← distance, tie]
    ring

end

-- Rounding to a unit that depends on the size

/-- A positive number between two powers of ten, and the nearest count of units that leave so many
places below the lower one.
-/
structure Leads (places : Nat) (q : ℚ) (leading count : Int) : Prop where
  low : 10 ^ leading ≤ q
  high : q < 10 ^ (leading + 1)
  nearest : NearestCount (10 ^ (leading - places)) q count

/-- No decimal of the given length is nearer than the nearest count of units. Those with a smaller
exponent are further off, and all others are multiples of the unit.
-/
theorem Leads.lt_or_tie (h : Leads places q leading count) (length : HasPlaces places digits)
    (exponent : Int)
    (apart : scientificValue places digits exponent ≠ count * 10 ^ (leading - places))
    : |q - count * 10 ^ (leading - places)| < |q - scientificValue places digits exponent|
      ∨ |q - count * 10 ^ (leading - places)| = |q - scientificValue places digits exponent|
        ∧ Even count ∧ ¬Even digits := by
  have unit := power_pos (leading - places)
  rcases lt_or_ge exponent leading with smaller | greater
  · -- The decimal stays below the power of ten, which is a multiple of the unit and nearer.
    refine .inl ?_
    have below : scientificValue places digits exponent < 10 ^ leading :=
      calc scientificValue places digits exponent
          ≤ |scientificValue places digits exponent| := le_abs_self _
        _ < 10 ^ (exponent + 1) := (length.bounds exponent).2
        _ ≤ 10 ^ leading := zpow_le_zpow_right₀ (by norm_num) (by omega)
    have power := power_eq_mul_unit places leading
    have low := h.low
    calc |q - count * 10 ^ (leading - places)|
        ≤ |q - ((10 ^ places : Int) : ℚ) * 10 ^ (leading - places)| := h.nearest.le unit _
      _ = q - 10 ^ leading := by
          push_cast
          rw [← power, abs_of_nonneg (by linarith)]
      _ < q - scientificValue places digits exponent := by linarith
      _ ≤ |q - scientificValue places digits exponent| := le_abs_self _
  · obtain ⟨shift, rfl⟩ := Int.le.dest greater
    have multiple : scientificValue places digits (leading + shift)
        = ((digits * 10 ^ shift : Int) : ℚ) * 10 ^ (leading - places) := by
      rw [scientificValue, add_sub_right_comm, add_comm, zpow_add₀ (by norm_num), zpow_natCast]
      push_cast
      ring
    rw [multiple] at apart ⊢
    have other : digits * 10 ^ shift ≠ count := by
      rintro rfl
      exact apart rfl
    rcases h.nearest.lt_or_tie unit other with nearer | ⟨same, even, odd⟩
    · exact .inl nearer
    · exact .inr ⟨same, even, fun even => odd (even.mul_right _)⟩

/-- The rounded decimal and the only one, which is also the nearest count of units of its own last
place.
-/
structure Rounding (places : Nat) (q : ℚ) (digits exponent : Int) : Prop
    extends RoundsTo places q digits exponent where
  only (digits' exponent' : Int) (rounds : RoundsTo places q digits' exponent')
    : digits' = digits ∧ exponent' = exponent
  count : NearestCount (10 ^ (exponent - places)) q digits

theorem Rounding.signed (h : Rounding places q digits exponent) (negative : Bool)
    : RoundsTo places (if negative then -q else q) (if negative then -digits else digits) exponent
      ∧ ∀ digits' exponent', RoundsTo places (if negative then -q else q) digits' exponent'
        → digits' = (if negative then -digits else digits) ∧ exponent' = exponent := by
  cases negative with
  | false => exact ⟨h.toRoundsTo, h.only⟩
  | true =>
    refine ⟨h.toRoundsTo.neg, fun digits' exponent' rounds => ?_⟩
    have back := rounds.neg
    rw [if_pos rfl, neg_neg] at back
    obtain ⟨same, rfl⟩ := h.only _ _ back
    exact ⟨by rw [if_pos rfl, ← same, neg_neg], rfl⟩

/-- A decimal that is the nearest count of units is the rounded one. -/
theorem Leads.roundsTo (h : Leads places q leading count) (length : HasPlaces places digits)
    (same : scientificValue places digits exponent = count * 10 ^ (leading - places))
    (even : Even count → Even digits)
    : RoundsTo places q digits exponent := by
  refine ⟨length, fun digits' exponent' length' => ?_,
    fun digits' exponent' length' other tie => ?_⟩
  · rw [same]
    by_cases equal : scientificValue places digits' exponent' = count * 10 ^ (leading - places)
    · rw [equal]
    · rcases h.lt_or_tie length' exponent' equal with nearer | ⟨tie, _⟩
      · exact nearer.le
      · exact tie.le
  · rw [same] at tie
    by_cases equal : scientificValue places digits' exponent' = count * 10 ^ (leading - places)
    · obtain ⟨rfl, rfl⟩ := length'.eq_of_value length (equal.trans same.symm)
      exact absurd rfl other
    · rcases h.lt_or_tie length' exponent' equal with nearer | ⟨_, evenCount, _⟩
      · exact absurd tie nearer.ne
      · exact even evenCount

/-- Another decimal is further off, or it is as near and its last digit is odd. -/
theorem Leads.only (h : Leads places q leading count) (length : HasPlaces places digits)
    (same : scientificValue places digits exponent = count * 10 ^ (leading - places))
    (rounds : RoundsTo places q digits' exponent')
    : digits' = digits ∧ exponent' = exponent := by
  by_contra other
  have equal : scientificValue places digits' exponent' ≠ count * 10 ^ (leading - places) :=
    fun equal => other (rounds.length.eq_of_value length (equal.trans same.symm))
  have nearest := rounds.nearest digits exponent length
  rw [same] at nearest
  rcases h.lt_or_tie rounds.length exponent' equal with nearer | ⟨tie, _, odd⟩
  · exact absurd nearest (not_le.mpr nearer)
  · refine odd (rounds.even digits exponent length ?_ (by rw [same, tie]))
    intro pair
    obtain ⟨rfl, rfl⟩ := Prod.mk.inj pair
    exact other ⟨rfl, rfl⟩

/-- Rounding never leaves the decade but for the power of ten at its end. -/
theorem Leads.count_bounds (h : Leads places q leading count)
    : 10 ^ places ≤ count ∧ count ≤ 10 ^ (places + 1) := by
  have unit := power_pos (leading - places)
  have near := abs_le.mp h.nearest.near
  have low := h.low
  have high := h.high
  rw [power_eq_mul_unit places leading] at low
  rw [power_succ_eq_mul_unit places leading] at high
  constructor
  · have above : ((10 ^ places : Int) : ℚ) < count + 1 := by
      refine lt_of_mul_lt_mul_right ?_ unit.le
      push_cast
      linarith
    have above : (10 ^ places : Int) < count + 1 := by exact_mod_cast above
    omega
  · have below : (count : ℚ) < (10 ^ (places + 1) : Int) + 1 := by
      refine lt_of_mul_lt_mul_right ?_ unit.le
      push_cast
      linarith
    have below : count < 10 ^ (places + 1) + 1 := by exact_mod_cast below
    omega

/-- A count of units that has the right length is rounded as it is. -/
theorem Leads.rounding (h : Leads places q leading count) (inside : count ≠ 10 ^ (places + 1))
    : Rounding places q count leading := by
  obtain ⟨least, greatest⟩ := h.count_bounds
  have size : |count| = count := abs_of_nonneg (le_trans (by positivity) least)
  have length : HasPlaces places count := ⟨by rwa [size], by rw [size]; omega⟩
  exact ⟨h.roundsTo length rfl id, fun _ _ rounds => h.only length rfl rounds, h.nearest⟩

/-- A count of units that carries into a new power of ten is one digit shorter in units ten times as
great. It is nearest in these even more so.
-/
theorem Leads.rounding_of_carry (h : Leads places q leading (10 ^ (places + 1)))
    (some : 0 < places)
    : Rounding places q (10 ^ places) (leading + 1) := by
  have size : |(10 : Int) ^ places| = 10 ^ places := abs_of_pos (by positivity)
  have length : HasPlaces places (10 ^ places) := by
    refine ⟨size.ge, ?_⟩
    rw [size]
    exact pow_lt_pow_right₀ (by norm_num) (Nat.lt_succ_self places)
  have unit := power_pos (leading - places)
  have tenfold : (10 : ℚ) ^ (leading + 1 - places) = 10 * 10 ^ (leading - places) := by
    rw [add_sub_right_comm, zpow_add_one₀ (by norm_num), mul_comm]
  have same : scientificValue places (10 ^ places) (leading + 1)
      = (10 ^ (places + 1) : Int) * 10 ^ (leading - places) := by
    rw [scientificValue, tenfold]
    push_cast
    ring
  have even : Even ((10 : Int) ^ places) := (by decide : Even (10 : Int)).pow_of_ne_zero some.ne'
  refine ⟨h.roundsTo length same fun _ => even, fun _ _ rounds => h.only length same rounds,
    .of_lt ?_⟩
  -- Half of the old unit is less than half of the new one, so there is no tie.
  rw [← scientificValue, same, tenfold]
  have near := h.nearest.near
  linarith

-- Rounding a quotient

variable {num den : Nat}

/-- The half of a unit that is left decides, and at exactly one half the quotient does. -/
theorem nearestCount_roundDiv (num : Nat) (positive : 0 < den)
    : NearestCount 1 ((num : ℚ) / den) (roundDiv .even num den) := by
  have pos : (0 : ℚ) < den := by exact_mod_cast positive
  have divided : (num : ℚ) / den = (num / den : Nat) + (num % den : Nat) / den := by
    rw [div_eq_iff pos.ne', add_mul, div_mul_cancel₀ _ pos.ne']
    exact_mod_cast (Nat.div_add_mod' num den).symm
  have nonneg : (0 : ℚ) ≤ (num % den : Nat) / den := by positivity
  have below : ((num % den : Nat) : ℚ) / den < 1 := by
    rw [div_lt_one pos]
    exact_mod_cast Nat.mod_lt num positive
  rw [divided]
  generalize isQuotient : num / den = quotient at *
  generalize isRest : num % den = rest at *
  simp only [roundDiv, isQuotient, isRest]
  split
  · next less =>
    have half : (rest : ℚ) / den < 1 / 2 := by
      rw [div_lt_iff₀ pos]
      have : (2 * rest : ℚ) < den := by exact_mod_cast less
      linarith
    refine .of_lt (abs_lt.mpr ?_)
    push_cast
    constructor <;> linarith
  · next notLess =>
    split
    · next more =>
      have half : 1 / 2 < (rest : ℚ) / den := by
        rw [lt_div_iff₀ pos]
        have : (den : ℚ) < 2 * rest := by exact_mod_cast more
        linarith
      refine .of_lt (abs_lt.mpr ?_)
      push_cast
      constructor <;> linarith
    · next notMore =>
      have half : (rest : ℚ) / den = 1 / 2 := by
        rw [div_eq_iff pos.ne']
        have : (2 * rest : ℚ) = den := by exact_mod_cast (by omega : 2 * rest = den)
        linarith
      refine ⟨?_, fun _ => ?_⟩
      · rw [half]
        rcases Nat.mod_two_eq_zero_or_one quotient with even | odd
        · norm_num [even]
        · norm_num [odd]
      · rw [Int.even_iff]
        omega

theorem log10_of_lt {n : Nat} (small : n < 10) : log10 n = 0 := by
  rw [log10, if_pos small]

theorem log10_of_not_lt {n : Nat} (large : ¬n < 10) : log10 n = log10 (n / 10) + 1 := by
  conv_lhs => rw [log10, if_neg large]

/-- A number is between the power of ten with its exponent and the next one, by induction on its
digits.
-/
theorem log10_bounds {n : Nat} (positive : 0 < n) : 10 ^ log10 n ≤ n ∧ n < 10 ^ (log10 n + 1) := by
  induction n using log10.induct with
  | case1 n small =>
    rw [log10_of_lt small]
    omega
  | case2 n large ih =>
    have bounds := ih (by omega)
    rw [log10_of_not_lt large, pow_succ 10 (log10 (n / 10)), pow_succ 10 (log10 (n / 10) + 1)]
    omega

/-- A quotient is between the power of ten with its leading exponent and the next one. -/
theorem leadingExponent_bounds (pos : 0 < num) (positive : 0 < den)
    : 10 ^ leadingExponent num den ≤ (num : ℚ) / den
      ∧ (num : ℚ) / den < 10 ^ (leadingExponent num den + 1) := by
  obtain ⟨shift, isShift⟩ : ∃ shift, shift = log10 den + 1 := ⟨_, rfl⟩
  obtain ⟨top, isTop⟩ : ∃ top, top = num * 10 ^ shift / den := ⟨_, rfl⟩
  have leading : leadingExponent num den = log10 top - shift := by
    rw [isTop, isShift]
    rfl
  have enough : den ≤ num * 10 ^ shift := by
    rw [isShift]
    exact (log10_bounds positive).2.le.trans (Nat.le_mul_of_pos_left _ pos)
  obtain ⟨low, high⟩ := log10_bounds (isTop ▸ Nat.div_pos enough positive : 0 < top)
  have below : 10 ^ log10 top * den ≤ num * 10 ^ shift :=
    (Nat.mul_le_mul_right den low).trans (isTop ▸ Nat.div_mul_le_self _ _)
  have above : num * 10 ^ shift < 10 ^ (log10 top + 1) * den :=
    (Nat.div_lt_iff_lt_mul positive).mp (isTop ▸ high)
  have power (n : Nat) : (10 : ℚ) ^ ((n : Int) - shift) = 10 ^ n / 10 ^ shift := by
    rw [zpow_sub₀ (by norm_num), zpow_natCast, zpow_natCast]
  have pos : (0 : ℚ) < den := by exact_mod_cast positive
  have next : leadingExponent num den + 1 = ((log10 top + 1 : Nat) : Int) - shift := by
    rw [leading]
    push_cast
    ring
  rw [next, leading, power, power, div_le_div_iff₀ (by positivity) pos,
    div_lt_div_iff₀ pos (by positivity)]
  exact ⟨by exact_mod_cast below, by exact_mod_cast above⟩

namespace Decimal

/-- The number itself. -/
def value (d : Decimal) : ℚ :=
  d.digits * 10 ^ d.exponent

theorem inUnits_value (num den : Nat) (unit : Int)
    : ((inUnits num den unit).1 : ℚ) / (inUnits num den unit).2 = num / den / 10 ^ unit := by
  rw [zpow_eq_div (by norm_num), inUnits]
  simp only [Nat.pow_eq, Nat.cast_mul, Nat.cast_pow, Nat.cast_ofNat]
  rw [div_div_div_eq, mul_comm (den : ℚ)]

/-- The digits of a quotient before the carry, if there is one. -/
theorem leads_roundDiv (places : Nat) (pos : 0 < num) (positive : 0 < den)
    : let units := inUnits num den (leadingExponent num den - places)
      Leads places ((num : ℚ) / den) (leadingExponent num den)
        (roundDiv .even units.1 units.2) := by
  intro units
  have bounds := leadingExponent_bounds pos positive
  have bottom : 0 < units.2 := Nat.mul_pos positive (Nat.pow_pos (by decide))
  have nearest := nearestCount_roundDiv units.1 bottom
  rw [inUnits_value] at nearest
  exact ⟨bounds.1, bounds.2, nearest.scale (power_pos _)⟩

/-- A positive quotient is rounded to so many digits, and there is no other way to do so. -/
theorem rounding_rounded (pos : 0 < num) (positive : 0 < den) (some : 0 < places)
    : Rounding places ((num : ℚ) / den) (rounded .even (places + 1) num den).digits
        ((rounded .even (places + 1) num den).exponent + places) := by
  have leads := leads_roundDiv places pos positive
  dsimp only at leads
  simp only [rounded, Nat.add_sub_cancel, Nat.pow_eq]
  split
  · next carry =>
    rw [carry] at leads
    push_cast at leads
    have rounding := leads.rounding_of_carry some
    have next : leadingExponent num den - places + 1 + places = leadingExponent num den + 1 := by
      ring
    rw [next]
    push_cast
    exact rounding
  · next inside =>
    rw [sub_add_cancel]
    exact leads.rounding (by exact_mod_cast inside)

end Decimal

end Spreadsheet.Number
