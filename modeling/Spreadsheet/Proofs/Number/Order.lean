import Spreadsheet.Proofs.Number.NotANumber

/-! The order of doubles that are not NaN, as one of lists of integers: the side of zero that a
number lies on, and how far from zero.
-/

namespace Spreadsheet.Number

open Float.Model (UnpackedFloat)

/-- The place of a number among the others. -/
def placeOf : UnpackedFloat → List Int
  | .infinity .negative => [-2]
  | .finite .negative mantissa exponent _ => [-1, -exponent, -mantissa]
  | .zero _ => [0]
  | .finite .positive mantissa exponent _ => [1, exponent, mantissa]
  | .infinity .positive => [2]
  | .notANumber => []

/-- The place of a double among the others; NaN has none. -/
def place (x : Float) : List Int :=
  placeOf x.toModel.unpack

theorem compare_neg_neg (m n : Int) : compare (-m) (-n) = (compare m n).swap := by
  rw [Int.compare_swap]
  simp only [Int.compare_eq_ite_lt, Int.neg_lt_neg_iff]

theorem compare_natCast (m n : Nat) : compare (m : Int) n = compare m n := by
  simp only [Int.compare_eq_ite_lt, Nat.compare_eq_ite_lt, Int.ofNat_lt]

/-- Numbers compare as their places do, by cases on the two numbers. -/
theorem compare_eq_place {u v : UnpackedFloat} (left : u.isNaN = false) (right : v.isNaN = false)
    : u.compare v = some (List.compareLex compare (placeOf u) (placeOf v)) := by
  cases u with
  | notANumber => cases left
  | infinity s =>
    cases v with
    | notANumber => cases right
    | infinity s' => cases s <;> cases s' <;> rfl
    | zero s' => cases s <;> rfl
    | finite s' m e pos => cases s <;> cases s' <;> rfl
  | zero s =>
    cases v with
    | notANumber => cases right
    | infinity s' => cases s' <;> rfl
    | zero s' => rfl
    | finite s' m e pos => cases s' <;> rfl
  | finite s m e pos =>
    cases v with
    | notANumber => cases right
    | infinity s' => cases s' <;> cases s <;> rfl
    | zero s' => cases s <;> rfl
    | finite s' m' e' pos' =>
      cases s <;> cases s'
      · simp [UnpackedFloat.compare, placeOf, List.compareLex_cons_cons, List.compareLex_nil_nil,
          compare_neg_neg, compare_natCast, Ordering.swap_then]
      · rfl
      · rfl
      · simp [UnpackedFloat.compare, placeOf, List.compareLex_cons_cons, List.compareLex_nil_nil,
          compare_natCast]

theorem compare_notANumber_right (u : UnpackedFloat) : u.compare .notANumber = none := by
  cases u <;> rfl

/-- Only numbers compare. -/
theorem numbers_of_compare {u v : UnpackedFloat} {order : Ordering}
    (h : u.compare v = some order)
    : u.isNaN = false ∧ v.isNaN = false := by
  cases v with
  | notANumber =>
    rw [compare_notANumber_right] at h
    cases h
  | _ =>
    cases u with
    | notANumber => cases h
    | _ => exact ⟨rfl, rfl⟩

/-- The order of two doubles of which neither is NaN; `-0` and `0` are equal. -/
def order (x y : Float) : Ordering :=
  if x < y then .lt else if y < x then .gt else .eq

variable {x y : Float}

theorem numbers_of_lt (h : x < y) : x.isNaN = false ∧ y.isNaN = false := by
  change decide (x.toModel.unpack.lt y.toModel.unpack = true) = true at h
  exact numbers_of_compare (eq_of_beq (of_decide_eq_true h))

theorem numbers_of_beq (h : (x == y) = true) : x.isNaN = false ∧ y.isNaN = false :=
  numbers_of_compare (eq_of_beq h)

theorem lt_iff_place (left : x.isNaN = false) (right : y.isNaN = false)
    : x < y ↔ List.compareLex compare (place x) (place y) = .lt := by
  change decide (x.toModel.unpack.lt y.toModel.unpack = true) = true ↔ _
  rw [UnpackedFloat.lt, compare_eq_place left right]
  simp [place]

theorem beq_iff_place (left : x.isNaN = false) (right : y.isNaN = false)
    : (x == y) = true ↔ List.compareLex compare (place x) (place y) = .eq := by
  change x.toModel.unpack.beq y.toModel.unpack = true ↔ _
  rw [UnpackedFloat.beq, compare_eq_place left right]
  simp [place]

theorem compareLex_place_swap (x y : Float)
    : List.compareLex compare (place y) (place x)
      = (List.compareLex compare (place x) (place y)).swap :=
  Std.OrientedCmp.eq_swap

/-- Of two numbers one comes before the other, or they are equal. -/
theorem lt_or_lt_or_beq (left : x.isNaN = false) (right : y.isNaN = false)
    : x < y ∨ y < x ∨ (x == y) = true := by
  rw [lt_iff_place left right, lt_iff_place right left, beq_iff_place left right,
    compareLex_place_swap x y]
  cases List.compareLex compare (place x) (place y) <;> decide

theorem beq_self (h : x.isNaN = false) : (x == x) = true :=
  (beq_iff_place h h).mpr Std.ReflCmp.compare_self

/-- Two numbers are ordered as their places. -/
theorem order_eq_place (left : x.isNaN = false) (right : y.isNaN = false)
    : order x y = List.compareLex compare (place x) (place y) := by
  rw [order, if_congr (lt_iff_place left right) rfl (if_congr (lt_iff_place right left) rfl rfl),
    compareLex_place_swap x y]
  cases List.compareLex compare (place x) (place y) <;> rfl

end Spreadsheet.Number
