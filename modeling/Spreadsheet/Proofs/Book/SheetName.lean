import Spreadsheet.Book.SheetName

/-! The rules for the names of sheets. -/

namespace Spreadsheet.SheetName

/-- A name that a sheet can have: not empty, of at most 31 characters none of which stands for
something else in formulas, and without an apostrophe at either end.
-/
structure Valid (name : String) : Prop where
  nonempty : name ≠ ""
  short : name.length ≤ 31
  allowed : ∀ c ∈ [':', '\\', '/', '?', '*', '[', ']'], c ∉ name.toList
  first : name.toList.head? ≠ some '\''
  last : name.toList.getLast? ≠ some '\''

theorem fault?_eq_none {name : String} : fault? name = none ↔ Valid name := by
  unfold fault?
  dsimp only
  split
  · next isEmpty =>
    refine iff_of_false nofun fun valid => valid.nonempty ?_
    simpa using isEmpty
  · next nonempty =>
    split
    · next long =>
      refine iff_of_false nofun fun valid => Nat.not_le.mpr long ?_
      rw [String.length_toList]
      exact valid.short
    · next short =>
      split
      · next c found =>
        refine iff_of_false nofun fun valid => ?_
        have isForbidden : c ∈ forbidden := by simpa using List.find?_some found
        exact valid.allowed c isForbidden (List.mem_of_find?_eq_some found)
      · next allowed =>
        have noneForbidden : ∀ c ∈ forbidden, c ∉ name.toList := by
          simpa using fun c isForbidden mem => List.find?_eq_none.mp allowed c mem
            (List.contains_iff_mem.mpr isForbidden)
        have nonempty' : name ≠ "" := fun empty => nonempty (by simp [empty])
        have short' : name.length ≤ 31 := String.length_toList (s := name) ▸ Nat.not_lt.mp short
        split
        · next quoted =>
          refine iff_of_false nofun fun valid => ?_
          simp [valid.first, valid.last] at quoted
        · next unquoted =>
          simp only [Bool.or_eq_true, decide_eq_true_eq, not_or] at unquoted
          exact iff_of_true rfl ⟨nonempty', short', noneForbidden, unquoted.1, unquoted.2⟩

end Spreadsheet.SheetName
