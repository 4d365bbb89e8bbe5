import Spreadsheet.Proofs.Text.Order
import Spreadsheet.Proofs.Value.Sound

/-! Scalars that are no errors are ordered by type and then by content, once a blank among them
stands for the value its partner asks for. The comparison operators answer from that order.
-/

namespace Spreadsheet

theorem compare_toNat (c d : Char) : compare (c.toNat : Int) d.toNat = compare c d := by
  rw [Number.compare_natCast]
  change compareOfLessAndEq c.toNat d.toNat = compareOfLessAndEq c d
  simp only [compareOfLessAndEq, Char.toNat_inj]
  rfl

/-- A map that keeps the order of elements keeps that of lists. -/
theorem compareLex_map {α β : Type} {cmp : α → α → Ordering} {cmp' : β → β → Ordering} {f : α → β}
    (kept : ∀ x y, cmp' (f x) (f y) = cmp x y) (xs ys : List α)
    : List.compareLex cmp' (xs.map f) (ys.map f) = List.compareLex cmp xs ys := by
  induction xs generalizing ys with
  | nil => cases ys <;> rfl
  | cons x xs ih =>
    cases ys with
    | nil => rfl
    | cons y ys => simp only [List.map_cons, List.compareLex_cons_cons, kept, ih]

namespace Value

-- The order of types and contents

/-- Scalars of one type by their content, and otherwise by their types. -/
def compareTyped : Value → Value → Ordering
  | number x, number y => Number.order x y
  | text s, text t => List.compareLex compare (Text.fold s.toList) (Text.fold t.toList)
  | boolean x, boolean y => compare x y
  | left, right => compare left.rank right.rank

/-- The place of a number, a text or a truth value among all of them: its type, then its content. -/
def key : Value → List Int
  | number x => 0 :: Number.place x
  | text s => 1 :: (Text.fold s.toList).map fun c => c.toNat
  | boolean b => [2, if b then 1 else 0]
  | _ => []

variable {left right other : Value}

theorem compareTyped_of_types (notNumbers : ∀ x y, left = number x → right = number y → False)
    (notTexts : ∀ s t, left = text s → right = text t → False)
    (notBooleans : ∀ a b, left = boolean a → right = boolean b → False)
    : compareTyped left right = compare left.rank right.rank := by
  unfold compareTyped
  split
  · exact (notNumbers _ _ rfl rfl).elim
  · exact (notTexts _ _ rfl rfl).elim
  · exact (notBooleans _ _ rfl rfl).elim
  · rfl

theorem isNaN_of_isOrdered {x : Float} (h : (number x).isOrdered) : x.isNaN = false := by
  simpa [isOrdered] using h

/-- Numbers, texts and truth values compare as their keys. -/
theorem compareTyped_eq_key (hl : left.isOrdered) (hr : right.isOrdered)
    : compareTyped left right = List.compareLex compare left.key right.key := by
  cases left with
  | number x =>
    cases right with
    | number y =>
      rw [compareTyped, Number.order_eq_place (isNaN_of_isOrdered hl) (isNaN_of_isOrdered hr)]
      rfl
    | text t => rfl
    | boolean b => rfl
    | _ => cases hr
  | text s =>
    cases right with
    | number y => rfl
    | text t =>
      rw [compareTyped, ← compareLex_map compare_toNat]
      rfl
    | boolean b => rfl
    | _ => cases hr
  | boolean a =>
    cases right with
    | number y => rfl
    | text t => rfl
    | boolean b => cases a <;> cases b <;> rfl
    | _ => cases hr
  | _ => cases hl

theorem compareTyped_swap (hl : left.isOrdered) (hr : right.isOrdered)
    : compareTyped right left = (compareTyped left right).swap := by
  rw [compareTyped_eq_key hl hr, compareTyped_eq_key hr hl]
  exact Std.OrientedCmp.eq_swap

theorem compareTyped_then (hl : left.isOrdered) (hr : right.isOrdered) (ho : other.isOrdered)
    (first : compareTyped left right ≠ .gt) (second : compareTyped right other ≠ .gt)
    : compareTyped left other = (compareTyped left right).then (compareTyped right other) := by
  rw [compareTyped_eq_key hl hr] at first ⊢
  rw [compareTyped_eq_key hr ho] at second ⊢
  rw [compareTyped_eq_key hl ho]
  cases less : List.compareLex compare left.key right.key with
  | lt =>
    exact Std.TransCmp.lt_of_lt_of_isLE less (Ordering.isLE_iff_ne_gt.mpr second)
  | eq => exact Std.TransCmp.congr_left less
  | gt => exact absurd less first

-- Blanks beside other operands

/-- What a blank stands for beside another operand. -/
def standIn : Value → Value
  | text _ => text ""
  | boolean _ => boolean false
  | _ => number 0

/-- An operand with a blank replaced by what it stands for beside its partner. -/
def filledFor (value partner : Value) : Value :=
  match value with
  | blank => partner.standIn
  | missing => partner.standIn
  | _ => value

theorem isOrdered_standIn (partner : Value) : partner.standIn.isOrdered := by
  unfold standIn
  split
  · rfl
  · rfl
  · decide

theorem IsOperand.isOrdered_filledFor (h : left.IsOperand) (partner : Value)
    : (left.filledFor partner).isOrdered := by
  cases left with
  | blank => exact isOrdered_standIn partner
  | missing => exact isOrdered_standIn partner
  | _ => exact h.isOrdered nofun nofun

theorem isOperand_blank : blank.IsOperand :=
  ⟨trivial, rfl⟩

theorem isOperand_missing : missing.IsOperand :=
  ⟨trivial, rfl⟩

theorem isOperand_of_isOrdered (h : left.isOrdered) : left.IsOperand := by
  cases left with
  | number x => exact ⟨isNaN_of_isOrdered h, rfl⟩
  | text t => exact ⟨trivial, rfl⟩
  | boolean b => exact ⟨trivial, rfl⟩
  | _ => cases h

-- The order of two values

variable {o p : Ordering}

theorem numbers_of_orderNumbers {x y : Float} (h : orderNumbers x y = .ok o)
    : x.isNaN = false ∧ y.isNaN = false ∧ o = Number.order x y := by
  unfold orderNumbers at h
  unfold Number.order
  split at h
  · next less =>
    cases h
    have ⟨left, right⟩ := Number.numbers_of_lt less
    exact ⟨left, right, (if_pos less).symm⟩
  · next notLess =>
    rw [if_neg notLess]
    split at h
    · next greater =>
      cases h
      have ⟨right, left⟩ := Number.numbers_of_lt greater
      exact ⟨left, right, (if_pos greater).symm⟩
    · next notGreater =>
      split at h
      · next same =>
        cases h
        have ⟨left, right⟩ := Number.numbers_of_beq same
        exact ⟨left, right, (if_neg notGreater).symm⟩
      · cases h

theorem orderNumbers_eq_ok_iff {x y : Float}
    : orderNumbers x y = .ok o
      ↔ x.isNaN = false ∧ y.isNaN = false ∧ o = Number.order x y := by
  refine ⟨numbers_of_orderNumbers, ?_⟩
  rintro ⟨left, right, rfl⟩
  obtain ⟨p, ordered⟩ := orderNumbers_eq_ok left right
  obtain ⟨_, _, rfl⟩ := numbers_of_orderNumbers ordered
  exact ordered

theorem compareTyped_empty (t : String)
    : compareTyped (text "") (text t) = if t.isEmpty then .eq else .lt := by
  rw [compareTyped]
  split
  · next empty =>
    rw [String.isEmpty_iff.mp empty]
    rfl
  · next nonempty =>
    cases folded : Text.fold t.toList with
    | nil =>
      have empty : t = "" := String.toList_eq_nil_iff.mp (Text.fold_eq_nil.mp folded)
      exact absurd (String.isEmpty_iff.mpr empty) nonempty
    | cons c rest => rfl

/-- A blank and an operand are ordered as what the blank stands for and the operand. -/
theorem orderBlank_eq_ok_iff
    : orderBlank right = .ok o
      ↔ right.IsOperand ∧ o = compareTyped right.standIn (right.filledFor blank) := by
  cases right with
  | number x =>
    rw [orderBlank, orderNumbers_eq_ok_iff]
    constructor
    · rintro ⟨_, numeric, rfl⟩
      exact ⟨⟨numeric, rfl⟩, rfl⟩
    · rintro ⟨⟨numeric, _⟩, rfl⟩
      exact ⟨by decide, numeric, rfl⟩
  | text t =>
    rw [orderBlank, ← compareTyped_empty, Except.ok.injEq, eq_comm]
    exact (and_iff_right ⟨trivial, rfl⟩).symm
  | boolean b =>
    have level : compareTyped (boolean false) (boolean b) = if b then .lt else .eq := by
      cases b <;> rfl
    rw [orderBlank, ← level, Except.ok.injEq, eq_comm]
    exact (and_iff_right ⟨trivial, rfl⟩).symm
  | blank =>
    have level : compareTyped (number 0) (number 0) = .eq := by decide
    rw [orderBlank, ← level, Except.ok.injEq, eq_comm]
    exact (and_iff_right ⟨trivial, rfl⟩).symm
  | missing =>
    have level : compareTyped (number 0) (number 0) = .eq := by decide
    rw [orderBlank, ← level, Except.ok.injEq, eq_comm]
    exact (and_iff_right ⟨trivial, rfl⟩).symm
  | error e => exact ⟨nofun, fun ⟨⟨_, noError⟩, _⟩ => nomatch noError⟩
  | area a => exact ⟨nofun, fun ⟨⟨plain, _⟩, _⟩ => plain.elim⟩
  | union areas => exact ⟨nofun, fun ⟨⟨plain, _⟩, _⟩ => plain.elim⟩

theorem filledFor_missing (value : Value) : value.filledFor missing = value.filledFor blank := by
  cases value <;> rfl

theorem filledFor_of_isOrdered (h : left.isOrdered) (partner : Value)
    : left.filledFor partner = left := by
  cases left with
  | blank => cases h
  | missing => cases h
  | _ => rfl

/-- The order with a blank on the right is that with it on the left, turned round. -/
theorem orderBlank_map_swap_eq_ok_iff
    : (orderBlank left).map Ordering.swap = .ok o
      ↔ left.IsOperand ∧ o = compareTyped (left.filledFor blank) left.standIn := by
  have turned (h : left.IsOperand)
      : compareTyped (left.filledFor blank) left.standIn
        = (compareTyped left.standIn (left.filledFor blank)).swap :=
    compareTyped_swap (isOrdered_standIn left) (h.isOrdered_filledFor blank)
  constructor
  · intro ordered
    obtain ⟨p, first, rfl⟩ := except_map_eq_ok.mp ordered
    obtain ⟨operand, rfl⟩ := orderBlank_eq_ok_iff.mp first
    exact ⟨operand, (turned operand).symm⟩
  · rintro ⟨operand, rfl⟩
    rw [orderBlank_eq_ok_iff.mpr ⟨operand, rfl⟩, turned operand]
    rfl

/-- Two values have an order just if they are scalars other than errors and NaN. -/
theorem order_eq_ok_iff
    : left.order right = .ok o
      ↔ left.IsOperand ∧ right.IsOperand
        ∧ o = compareTyped (left.filledFor right) (right.filledFor left) := by
  unfold order
  split
  · exact orderBlank_eq_ok_iff.trans (and_iff_right isOperand_blank).symm
  · rw [filledFor_missing]
    exact orderBlank_eq_ok_iff.trans (and_iff_right isOperand_missing).symm
  · rw [orderBlank_map_swap_eq_ok_iff, and_iff_right isOperand_blank]
    rfl
  · rw [orderBlank_map_swap_eq_ok_iff, filledFor_missing, and_iff_right isOperand_missing]
    rfl
  · next x y =>
    rw [Except.ok.injEq, eq_comm, and_iff_right (isOperand_of_isOrdered rfl),
      and_iff_right (isOperand_of_isOrdered rfl)]
    rfl
  · next x y =>
    rw [orderNumbers_eq_ok_iff]
    exact ⟨fun ⟨hx, hy, same⟩ => ⟨⟨hx, rfl⟩, ⟨hy, rfl⟩, same⟩,
      fun ⟨hx, hy, same⟩ => ⟨hx.1, hy.1, same⟩⟩
  · next s t =>
    rw [Except.ok.injEq, eq_comm, and_iff_right (isOperand_of_isOrdered rfl),
      and_iff_right (isOperand_of_isOrdered rfl), Text.order_eq_fold]
    rfl
  · next notBlank notMissing notBlank' notMissing' notBooleans notNumbers notTexts =>
    constructor
    · intro ordered
      split at ordered
      · next both =>
        cases ordered
        have ⟨hl, hr⟩ := Bool.and_eq_true_iff.mp both
        refine ⟨isOperand_of_isOrdered hl, isOperand_of_isOrdered hr, ?_⟩
        rw [filledFor_of_isOrdered hl, filledFor_of_isOrdered hr]
        exact (compareTyped_of_types notNumbers notTexts notBooleans).symm
      · cases ordered
    · rintro ⟨hl, hr, rfl⟩
      have hl := hl.isOrdered notBlank notMissing
      have hr := hr.isOrdered notBlank' notMissing'
      rw [filledFor_of_isOrdered hl, filledFor_of_isOrdered hr, hl, hr]
      rw [compareTyped_of_types notNumbers notTexts notBooleans]
      rfl

theorem order_swap : left.order right = .ok o ↔ right.order left = .ok o.swap := by
  have turned (hl : left.IsOperand) (hr : right.IsOperand)
      : compareTyped (right.filledFor left) (left.filledFor right)
        = (compareTyped (left.filledFor right) (right.filledFor left)).swap :=
    compareTyped_swap (hl.isOrdered_filledFor right) (hr.isOrdered_filledFor left)
  rw [order_eq_ok_iff, order_eq_ok_iff]
  constructor
  · rintro ⟨hl, hr, rfl⟩
    exact ⟨hr, hl, (turned hl hr).symm⟩
  · rintro ⟨hr, hl, same⟩
    rw [turned hl hr, Ordering.swap_inj] at same
    exact ⟨hl, hr, same⟩

theorem order_of_isOrdered (hl : left.isOrdered) (hr : right.isOrdered)
    : left.order right = .ok (compareTyped left right) :=
  order_eq_ok_iff.mpr ⟨isOperand_of_isOrdered hl, isOperand_of_isOrdered hr, by
    rw [filledFor_of_isOrdered hl, filledFor_of_isOrdered hr]⟩

/-- Without blanks, two steps that do not lead down in the order make one that leads up if either
of them does.
-/
theorem order_trans (noBlank : ∀ value ∈ [left, right, other], value ≠ blank ∧ value ≠ missing)
    (first : left.order right = .ok o) (second : right.order other = .ok p)
    (notDown : o ≠ .gt) (notDown' : p ≠ .gt)
    : left.order other = .ok (o.then p) := by
  have ordered {value : Value} (operand : value.IsOperand)
      (mem : value ∈ [left, right, other])
      : value.isOrdered :=
    operand.isOrdered (noBlank value mem).1 (noBlank value mem).2
  obtain ⟨operand, operand', _⟩ := order_eq_ok_iff.mp first
  obtain ⟨_, operand'', _⟩ := order_eq_ok_iff.mp second
  have hl := ordered operand (by simp)
  have hr := ordered operand' (by simp)
  have ho := ordered operand'' (by simp)
  rw [order_of_isOrdered hl hr] at first
  rw [order_of_isOrdered hr ho] at second
  cases first
  cases second
  rw [order_of_isOrdered hl ho, compareTyped_then hl hr ho notDown notDown']

end Value

namespace Comparison

/-- Answers of the comparisons that fit exactly one of less, equal and greater. -/
structure Consistent (answer : Comparison → Bool) : Prop where
  one : ∃! op, op ∈ [less, equal, greater] ∧ answer op
  notEqual : answer notEqual = !answer equal
  lessEqual : answer lessEqual = (answer less || answer equal)
  greaterEqual : answer greaterEqual = (answer greater || answer equal)

theorem consistent_test (o : Ordering) : Consistent fun op => op.test o where
  one := by
    cases o with
    | lt => exact ⟨less, by decide, fun op => by cases op <;> decide⟩
    | eq => exact ⟨equal, by decide, fun op => by cases op <;> decide⟩
    | gt => exact ⟨greater, by decide, fun op => by cases op <;> decide⟩
  notEqual := by cases o <;> rfl
  lessEqual := by cases o <;> rfl
  greaterEqual := by cases o <;> rfl

/-- All comparisons of two arguments fail alike, or their answers fit together. -/
theorem evaluate_consistent (here : Position) (left right : Value)
    : (∃ e, ∀ op : Comparison, op.evaluate here left right = .ok (.error e))
      ∨ (∃ e, ∀ op : Comparison, op.evaluate here left right = .error e)
      ∨ ∃ answer, Consistent answer
          ∧ ∀ op : Comparison, op.evaluate here left right = .ok (.boolean (answer op)) := by
  unfold evaluate
  cases left.resolve here with
  | error e => exact .inl ⟨e, fun _ => rfl⟩
  | ok x =>
    cases right.resolve here with
    | error e => exact .inl ⟨e, fun _ => rfl⟩
    | ok y =>
      cases ordered : x.order y with
      | error e => exact .inr (.inl ⟨e, fun _ => congrArg (Except.map _) ordered⟩)
      | ok o =>
        exact .inr (.inr ⟨_, consistent_test o, fun _ => congrArg (Except.map _) ordered⟩)

end Comparison

/-- Mixed values have one order: just the scalars other than errors and NaN have it, by type and
then by content, with a blank standing for zero, the empty text or `FALSE`. It turns round with its
operands, is transitive where no blank is compared, ignores the case of texts throughout, and is
what the comparisons answer from.
-/
theorem Value.order_mixed (a b c : Value) (s t : String) (here : Position)
    : (∀ o, a.order b = .ok o
        ↔ a.IsOperand ∧ b.IsOperand ∧ o = compareTyped (a.filledFor b) (b.filledFor a))
      ∧ (∀ o, a.order b = .ok o ↔ b.order a = .ok o.swap)
      ∧ ((∀ value ∈ [a, b, c], value ≠ blank ∧ value ≠ missing)
        → ∀ o p, a.order b = .ok o → b.order c = .ok p → o ≠ .gt → p ≠ .gt
          → a.order c = .ok (o.then p))
      ∧ Text.order s t = List.compareLex compare (Text.fold s.toList) (Text.fold t.toList)
      ∧ ((∃ e, ∀ op : Comparison, op.evaluate here a b = .ok (.error e))
        ∨ (∃ e, ∀ op : Comparison, op.evaluate here a b = .error e)
        ∨ ∃ answer, Comparison.Consistent answer
            ∧ ∀ op : Comparison, op.evaluate here a b = .ok (.boolean (answer op))) :=
  ⟨fun _ => order_eq_ok_iff, fun _ => order_swap, fun noBlank _ _ => order_trans noBlank,
    Text.order_eq_fold s t, Comparison.evaluate_consistent here a b⟩

/-- From a number over a text to a text that differs in case. -/
theorem Value.order_mixed_texts
    : (number 3).order (text "maße") = .ok .lt ∧ (text "maße").order (text "MASSE") = .ok .eq
      ∧ (number 3).order (text "MASSE") = .ok .lt := by
  have first : (number 3).order (text "maße") = .ok .lt := by decide
  have second : (text "maße").order (text "MASSE") = .ok .eq := by decide
  exact ⟨first, second,
    (order_mixed (number 3) (text "maße") (text "MASSE") "" "" ⟨0, 0⟩).2.2.1 (by simp) _ _ first
      second (by decide) (by decide)⟩

end Spreadsheet
