import Spreadsheet.Proofs.Formula.Rendering

/-! What the text of a formula shows of it: numbers with the digits they are written with, indices
of workbooks up to the greatest one that is written, and functions by their names in upper case. All
else is shown as it is, but for the grouping of unions.
-/

namespace Spreadsheet.Expr

attribute [local simp] children leftUnions

/-- The number that the text of a number is read as, if it is read as one. -/
def shownNumber (x : Float) : Float :=
  match Token.scan? (Number.general x).toList with
  | some (.number y, []) => y
  | _ => x

mutual

/-- A formula with the numbers, sheets and functions that its text shows. -/
def asWritten : Expr → Expr
  | number x => number (shownNumber x)
  | cell sheet a => cell (sheet.map SheetRef.written) a
  | range sheet r => range (sheet.map SheetRef.written) r
  | binary op left right => binary op left.asWritten right.asWritten
  | union left right => union left.asWritten right.asWritten
  | unary op operand => unary op operand.asWritten
  | call f arguments => call (Text.upper f) (asWrittenList arguments)
  | array rows => array (asWrittenRows rows)
  | e => e

/-- Each formula of a list as its text shows it. -/
def asWrittenList : List Expr → List Expr
  | [] => []
  | e :: rest => e.asWritten :: asWrittenList rest

/-- Each formula of some rows as its text shows it. -/
def asWrittenRows : List (List Expr) → List (List Expr)
  | [] => []
  | row :: rest => asWrittenList row :: asWrittenRows rest

end

attribute [local simp] asWritten

theorem asWrittenList_eq_map (es : List Expr) : asWrittenList es = es.map asWritten := by
  induction es with
  | nil => rfl
  | cons e es ih => rw [asWrittenList, ih, List.map_cons]

theorem asWrittenRows_eq_map (rows : List (List Expr))
    : asWrittenRows rows = rows.map fun row => row.map asWritten := by
  induction rows with
  | nil => rfl
  | cons row rows ih => rw [asWrittenRows, ih, asWrittenList_eq_map, List.map_cons]

open Token

variable {e : Expr}

theorem isUnion_asWritten (e : Expr) : e.asWritten.isUnion = e.isUnion := by
  cases e <;> simp [isUnion]

/-- Nothing but a missing argument is shown as one. -/
theorem eq_missing_of_asWritten (h : e.asWritten.leftUnions = missing) : e = missing := by
  cases e with
  | missing => rfl
  | union left right =>
    have isUnion := isUnion_leftUnions (union left right).asWritten
    rw [h, isUnion_asWritten] at isUnion
    cases isUnion
  | _ => simp at h

theorem eq_singleton_missing_of_asWritten {es : List Expr}
    (h : es.map (fun e => e.asWritten.leftUnions) = [missing])
    : es = [missing] := by
  obtain ⟨e, rfl, same⟩ := List.map_eq_singleton_iff.mp h
  rw [eq_missing_of_asWritten same]

-- What is shown as it is

theorem scan?_shownNumber {x : Float} (readable : (number x).Readable)
    : scan? (Number.general x).toList = some (.number (shownNumber x), []) := by
  obtain ⟨y, read⟩ := readable
  rw [shownNumber, read]

/-- A formula that is legible in all its parts can be read again in all its parts. -/
theorem readable_of_legible (wellFormed : e.WellFormed)
    (legible : ∀ part, e.Contains part → part.Legible)
    : ∀ part, e.Contains part → part.Readable := by
  intro part within
  have legible := legible part within
  have proper : part.Proper := wellFormed part within
  cases part with
  | number x => exact ⟨x, legible⟩
  | binary op left right => exact legible
  | call f arguments =>
    obtain ⟨⟨word, isWord, rfl⟩, _⟩ := proper
    exact isIdentifierChar_of_mem_upper isWord legible
  | _ => exact trivial

/-- The sheets of a legible reference are shown as they are. -/
theorem map_written_eq_self {sheet : Option SheetRef}
    (legible : ∀ r ∈ sheet, ∀ n ∈ r.book, n ≤ SheetRef.maxWrittenBook)
    : sheet.map SheetRef.written = sheet := by
  cases sheet with
  | none => rfl
  | some r => exact congrArg some (SheetRef.written_eq_self_iff.mpr (legible r rfl))

/-- A formula that is legible in all its parts is shown as it is, by induction on the formula. -/
theorem asWritten_eq_self (wellFormed : e.WellFormed)
    (legible : ∀ part, e.Contains part → part.Legible)
    : e.asWritten = e := by
  induction e using induction_children with
  | step e ih =>
    obtain ⟨proper, wellFormed⟩ := wellFormed_iff.mp wellFormed
    obtain ⟨here, below⟩ := forall_contains_iff.mp legible
    have same : ∀ child ∈ e.children, child.asWritten = child :=
      fun child mem => ih child mem (wellFormed child mem) (below child mem)
    cases e with
    | number x =>
      have read : scan? (Number.general x).toList = some (.number x, []) := here
      rw [asWritten, shownNumber, read]
    | cell sheet a => rw [asWritten, map_written_eq_self here]
    | range sheet r => rw [asWritten, map_written_eq_self here]
    | binary op left right =>
      simp only [children, List.forall_mem_cons] at same
      rw [asWritten, same.1, same.2.1]
    | union left right =>
      simp only [children, List.forall_mem_cons] at same
      rw [asWritten, same.1, same.2.1]
    | unary op operand =>
      simp only [children, List.forall_mem_cons] at same
      rw [asWritten, same.1]
    | call f arguments =>
      obtain ⟨⟨word, _, rfl⟩, _⟩ := proper
      have listed : arguments.map asWritten = arguments :=
        (List.map_congr_left same).trans (List.map_id' _)
      rw [asWritten, asWrittenList_eq_map, listed, Text.upper_upper here]
    | array rows =>
      have listed : (rows.map fun row => row.map asWritten) = rows := by
        refine (List.map_congr_left fun row inRows => ?_).trans (List.map_id' _)
        refine (List.map_congr_left fun e inRow => ?_).trans (List.map_id' _)
        exact same e (List.mem_flatten.mpr ⟨row, inRows, inRow⟩)
      rw [asWritten, asWrittenRows_eq_map, listed]
    | _ => simp

end Spreadsheet.Expr
