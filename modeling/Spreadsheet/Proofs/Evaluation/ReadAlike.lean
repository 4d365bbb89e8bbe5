import Spreadsheet.Proofs.Evaluation.Agreement
import Spreadsheet.Proofs.Evaluation.CellReference
import Spreadsheet.Proofs.Value.Alike

/-! What is read of a range looks alike on two sheets that hold the same in the range. What else
they hold only has an influence on how much is stored, and on whether it is too much.
-/

namespace Spreadsheet

namespace Sheet

variable {s t : Sheet} {r part : Range} {area : Area Value}

-- The data of a range

/-- The values of a range that are not blank, row by row. -/
def dataIn (sheet : Sheet) (r : Range) : List Value :=
  (sheet.values r).flatten.filter Value.isData

/-- The value of a cell, unless it is blank. -/
def dataAt (sheet : Sheet) (row col : Nat) : List Value :=
  [Value.ofContent (sheet.get ⟨row, col⟩)].filter Value.isData

theorem dataAt_of_empty {row col : Nat} (empty : s.get ⟨row, col⟩ = .empty)
    : s.dataAt row col = [] := by
  rw [dataAt, empty]
  rfl

theorem dataIn_eq_flatMap (s : Sheet) (r : Range)
    : s.dataIn r = (List.range' r.first.row r.rowCount).flatMap fun row =>
        (List.range' r.first.col r.colCount).flatMap (s.dataAt row) := by
  rw [dataIn, values, ← List.flatMap_def, List.filter_flatMap]
  refine List.flatMap_congr fun row _ => ?_
  rw [List.map_eq_flatMap, List.filter_flatMap]
  rfl

/-- All data of a range is in a part of it if the rest is empty. -/
theorem dataIn_part (first : r.contains part.first.position) (last : r.contains part.last.position)
    (rest : ∀ p, r.contains p → ¬part.contains p → s.get p = .empty)
    : s.dataIn r = s.dataIn part := by
  rw [Range.contains_iff] at first last
  simp only [Address.position] at first last
  have rows := part.rows_le
  have cols := part.cols_le
  have empty {row col : Nat} (inside : r.contains ⟨row, col⟩)
      (outside : ¬part.contains ⟨row, col⟩)
      : s.dataAt row col = [] :=
    dataAt_of_empty (rest ⟨row, col⟩ inside outside)
  have rowsWithin : part.first.row + part.rowCount ≤ r.first.row + r.rowCount := by
    rw [Range.rowCount, Range.rowCount]
    omega
  have colsWithin : part.first.col + part.colCount ≤ r.first.col + r.colCount := by
    rw [Range.colCount, Range.colCount]
    omega
  calc s.dataIn r
    _ = (List.range' r.first.row r.rowCount).flatMap fun row =>
        (List.range' r.first.col r.colCount).flatMap (s.dataAt row) := dataIn_eq_flatMap s r
    _ = (List.range' part.first.row part.rowCount).flatMap fun row =>
        (List.range' r.first.col r.colCount).flatMap (s.dataAt row) := by
      refine flatMap_range'_of_outside first.1.1 rowsWithin fun row low high outside => ?_
      refine List.flatMap_eq_nil_iff.mpr fun col mem => ?_
      refine empty (Range.contains_iff_lt.mpr ⟨⟨low, high⟩, List.mem_range'_1.mp mem⟩) ?_
      exact fun inside => outside (Range.contains_iff_lt.mp inside).1
    _ = (List.range' part.first.row part.rowCount).flatMap fun row =>
        (List.range' part.first.col part.colCount).flatMap (s.dataAt row) := by
      refine List.flatMap_congr fun row mem => ?_
      have inRow := List.mem_range'_1.mp mem
      refine flatMap_range'_of_outside first.2.1 colsWithin fun col low high outside => ?_
      refine empty (Range.contains_iff_lt.mpr ⟨⟨?_, ?_⟩, low, high⟩) ?_
      · exact Nat.le_trans first.1.1 inRow.1
      · exact Nat.lt_of_lt_of_le inRow.2 rowsWithin
      · exact fun inside => outside (Range.contains_iff_lt.mp inside).2
    _ = s.dataIn part := (dataIn_eq_flatMap s part).symm

/-- An area that was read stores all data of the range, whatever else it stores. -/
theorem data_of_area (read : s.area r = pure area) : area.data = s.dataIn r := by
  rcases (area_eq_pure_cases read).2 with ⟨rfl, empty⟩ | ⟨part, rfl, first, last, rest⟩
  · rw [dataIn_eq_flatMap]
    refine (List.flatMap_eq_nil_iff.mpr fun row inRows => ?_).symm
    refine List.flatMap_eq_nil_iff.mpr fun col inCols => ?_
    refine dataAt_of_empty (empty ⟨row, col⟩ (Range.contains_iff_lt.mpr ⟨?_, ?_⟩))
    · exact List.mem_range'_1.mp inRows
    · exact List.mem_range'_1.mp inCols
  · exact (dataIn_part first last rest).symm

-- Two sheets side by side

/-- Two sheets hold the same in a range, as far as formulas see it. -/
def SameIn (r : Range) (s t : Sheet) : Prop :=
  ∀ p, r.contains p → (s.get p).effective = (t.get p).effective

/-- Two sheets hold the same in a range, and too much data in it only both of them. -/
structure ReadAlike (r : Range) (s t : Sheet) : Prop where
  same : SameIn r s t
  overflows : s.Overflows r ↔ t.Overflows r

theorem SameIn.refl (r : Range) (s : Sheet) : SameIn r s s :=
  fun _ _ => rfl

/-- What a cell outside the range is given makes no difference in it. -/
theorem SameIn.insert {p : Position} (same : SameIn r s t) (outside : ¬r.contains p)
    (content : Content)
    : SameIn r s { t with cells := t.cells.insert p content } := by
  intro q inside
  have apart : p ≠ q := by
    rintro rfl
    exact outside inside
  rw [same q inside, get, get, Cells.get?_insert, if_neg apart]

theorem SameIn.ofContent (same : SameIn r s t) {p : Position} (inside : r.contains p)
    : Value.ofContent (s.get p) = Value.ofContent (t.get p) := by
  rw [Value.ofContent, Value.ofContent, same p inside]

theorem SameIn.values (same : SameIn r s t) : s.values r = t.values r := by
  refine List.map_congr_left fun row inRows => List.map_congr_left fun col inCols => ?_
  refine same.ofContent (Range.contains_iff_lt.mpr ⟨?_, ?_⟩)
  · exact List.mem_range'_1.mp inRows
  · exact List.mem_range'_1.mp inCols

/-- Areas look alike that show sheets with the same content in a range. -/
theorem SameIn.alike {a b : Area Value} (same : SameIn r s t) (readLeft : s.area r = pure a)
    (readRight : t.area r = pure b)
    : a.Alike b := by
  have left := shows_of_area readLeft
  have right := shows_of_area readRight
  refine ⟨left.origin.trans right.origin.symm, left.height.trans right.height.symm,
    left.width.trans right.width.symm, fun row col => ?_, ?_⟩
  · rw [left.relative?, right.relative?]
    split
    · next within => exact congrArg some (same.ofContent (Range.contains_offset.mpr within))
    · rfl
  · rw [data_of_area readLeft, data_of_area readRight, dataIn, dataIn, same.values]

end Sheet

-- Two readings side by side

/-- Two readings fail alike, with an error value or altogether, or their results are related. -/
def Reading.Agrees {α β : Type} (R : α → β → Prop) (x : Reading α) (y : Reading β) : Prop :=
  Agree (Agree R) x.run y.run

namespace Reading

variable {α β γ δ : Type} {R : α → β → Prop} {S : γ → δ → Prop}

theorem agrees_pure {a : α} {b : β} (h : R a b) : Agrees R (pure a) (pure b) :=
  .ok (.ok h)

theorem agrees_of_eq {R : α → α → Prop} {x y : Reading α} (same : x = y) (refl : ∀ a, R a a)
    : Agrees R x y :=
  Agree.of_eq (congrArg ExceptT.run same) fun _ => Agree.of_eq rfl refl

theorem Agrees.bind {x : Reading α} {y : Reading β} {f : α → Reading γ} {g : β → Reading δ}
    (h : Agrees R x y) (then_ : ∀ a b, R a b → Agrees S (f a) (g b))
    : Agrees S (x >>= f) (y >>= g) := by
  refine Agree.bind h fun a b related => ?_
  cases related with
  | ok related => exact then_ _ _ related
  | error e => exact .ok (.error e)

theorem agrees_mapM {f : α → Reading γ} {g : α → Reading δ} {xs : List α}
    (h : ∀ x ∈ xs, Agrees S (f x) (g x))
    : Agrees (List.Forall₂ S) (xs.mapM f) (xs.mapM g) := by
  induction xs with
  | nil => exact agrees_pure .nil
  | cons x xs ih =>
    simp only [List.mem_cons, forall_eq_or_imp] at h
    rw [List.mapM_cons, List.mapM_cons]
    exact h.1.bind fun _ _ first => (ih h.2).bind fun _ _ others => agrees_pure (.cons first others)

end Reading

/-- A range looks alike on two sheets that hold the same in it, unless just one of them has too much
data there.
-/
theorem Sheet.agrees_area {s t : Sheet} {r : Range} (inGrid : s.InGrid) (inGrid' : t.InGrid)
    (alike : ReadAlike r s t)
    : Reading.Agrees Area.Alike (s.area r) (t.area r) := by
  by_cases small : r.cellCount ≤ denseLimit
  · refine Reading.agrees_of_eq ?_ Area.Alike.refl
    rw [area, area, if_pos small, if_pos small, alike.same.values]
  cases built : r.blankArea with
  | error e =>
    refine Reading.agrees_of_eq ?_ Area.Alike.refl
    rw [area_of_misfit small built, area_of_misfit small built]
  | ok blank =>
    have fits := (Area.blank_eq_ok.mp built).1
    rcases s.area_of_large small fits fun _ _ => inGrid.inter?
      with ⟨full, read⟩ | ⟨some, a, read, _⟩
    · rcases t.area_of_large small fits fun _ _ => inGrid'.inter? with ⟨_, read'⟩ | ⟨some', _⟩
      · exact Reading.agrees_of_eq (read.trans read'.symm) Area.Alike.refl
      · exact absurd (alike.overflows.mp full) some'
    · rcases t.area_of_large small fits fun _ _ => inGrid'.inter?
        with ⟨full', _⟩ | ⟨_, b, read', _⟩
      · exact absurd (alike.overflows.mpr full') some
      · rw [read, read']
        exact Reading.agrees_pure (alike.same.alike read read')

end Spreadsheet
