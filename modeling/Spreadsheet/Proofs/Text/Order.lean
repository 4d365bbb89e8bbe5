import Spreadsheet.Proofs.Text.UpperCase
import Spreadsheet.Value.Order

/-! Texts are ordered by their folded characters, whether or not they agree but for the case of
ASCII letters.
-/

namespace Spreadsheet

namespace Unicode

theorem toLower_of_wide {c : Char} (wide : ¬c.toNat < 0x80) : c.toLower = c := by
  refine dif_neg ?_
  rintro ⟨_, letter⟩
  exact wide (Nat.lt_of_le_of_lt (UInt32.le_iff_toNat_le.mp letter) (by decide))

/-- The upper case of a character is that of its lower case in ASCII. -/
theorem upper_toLower (c : Char) : upper c.toLower = upper c := by
  by_cases ascii : c.toNat < 0x80
  · have cases_ : ∀ n < 0x80, upper (Char.ofNat n).toLower = upper (Char.ofNat n) := by decide
    exact forall_ascii (P := fun c => upper c.toLower = upper c) cases_ ascii
  · rw [toLower_of_wide ascii]

/-- A table without empty expansions maps no character to nothing. -/
theorem mapCase_ne_nil {expansions : List (Nat × List Nat)} {runs : List CaseRun} (c : Char)
    (full : ∀ entry ∈ expansions, entry.2 ≠ [])
    : mapCase expansions runs c ≠ [] := by
  unfold mapCase
  split
  · next codes found =>
    obtain ⟨before, after, table, _⟩ := List.lookup_eq_some_iff.mp found
    exact fun none => full (c.toNat, codes) (by simp [table]) (List.map_eq_nil_iff.mp none)
  · exact List.cons_ne_nil _ _

theorem upper_ne_nil (c : Char) : upper c ≠ [] := by
  unfold upper
  split
  · exact List.cons_ne_nil _ _
  · exact mapCase_ne_nil c (by decide)

theorem lower_ne_nil (c : Char) : lower c ≠ [] := by
  unfold lower
  split
  · exact List.cons_ne_nil _ _
  · exact mapCase_ne_nil c (by decide)

end Unicode

namespace Text

theorem fold_map_toLower (cs : List Char) : fold (cs.map Char.toLower) = fold cs := by
  rw [fold, fold, List.flatMap_map]
  exact congrArg (List.flatMap Unicode.lower)
    (List.flatMap_congr fun c _ => Unicode.upper_toLower c)

theorem fold_eq_nil {cs : List Char} : fold cs = [] ↔ cs = [] := by
  rw [fold, List.flatMap_eq_nil_iff]
  constructor
  · intro none
    refine List.eq_nil_iff_forall_not_mem.mpr fun c mem => ?_
    obtain ⟨d, image⟩ := List.exists_mem_of_ne_nil _ (Unicode.upper_ne_nil c)
    exact Unicode.lower_ne_nil d (none d (List.mem_flatMap.mpr ⟨c, mem, image⟩))
  · rintro rfl d mem
    cases mem

/-- The order of two texts is that of their folded characters; texts that agree but for the case of
ASCII letters have the same.
-/
theorem order_eq_fold (left right : String)
    : order left right
      = List.compareLex compare (fold left.toList) (fold right.toList) := by
  unfold order
  split
  · next same =>
    have folds : fold left.toList = fold right.toList := by
      rw [← fold_map_toLower, ← fold_map_toLower right.toList]
      exact congrArg fold (eq_of_beq same)
    rw [folds]
    exact Std.ReflCmp.compare_self.symm
  · rfl

end Text

end Spreadsheet
