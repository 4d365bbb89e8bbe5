import Mathlib.Data.List.Basic
import Spreadsheet.Proofs.Unicode.Character
import Spreadsheet.Text.Case

/-! The upper case of a text, as far as it is ASCII, is its own upper case. What the tables map
into ASCII from outside are capital letters, such as the `SS` for `ß`.
-/

namespace Spreadsheet

namespace Unicode

theorem toUpper_toUpper {c : Char} (ascii : c.toNat < 0x80) : c.toUpper.toUpper = c.toUpper :=
  forall_ascii (P := fun c => c.toUpper.toUpper = c.toUpper) (by decide) ascii

theorem toUpper_of_isUpper {c : Char} (ascii : c.toNat < 0x80) (h : c.isUpper) : c.toUpper = c :=
  forall_ascii (P := fun c => c.isUpper → c.toUpper = c) (by decide) ascii h

/-- A run of the upper case table leads to no ASCII character, or to one capital letter. -/
theorem upperRuns_cases
    : ∀ run ∈ upperRuns,
      (0x80 ≤ run.first + run.offset
        ∧ (run.last + run.offset < 0xd800
          ∨ 0xdfff < run.first + run.offset ∧ run.last + run.offset < 0x110000))
      ∨ (run.first = run.last ∧ 0x41 ≤ run.first + run.offset ∧ run.first + run.offset ≤ 0x5a) := by
  decide +kernel

/-- The expansions of the upper case table hold no ASCII characters other than capital letters. -/
theorem upperExpansions_cases
    : ∀ entry ∈ upperExpansions, ∀ code ∈ entry.2,
      (Char.ofNat code).toNat < 0x80 → (Char.ofNat code).isUpper := by
  decide +kernel

theorem isUpper_of_image? {run : CaseRun} {c d : Char} (mem : run ∈ upperRuns)
    (image : run.image? c = some d) (ascii : d.toNat < 0x80)
    : d.isUpper := by
  unfold CaseRun.image? at image
  split at image
  · next covered =>
    cases image
    simp only [Bool.and_eq_true, decide_eq_true_eq] at covered
    obtain ⟨⟨above, below⟩, _⟩ := covered
    rcases upperRuns_cases run mem with ⟨wide, valid⟩ | ⟨single, first, last⟩
    · exfalso
      have isValid : (c.toNat + run.offset).toNat.isValidChar := by
        unfold Nat.isValidChar
        omega
      rw [toNat_ofNat isValid] at ascii
      omega
    · obtain ⟨letter, code⟩ : ∃ letter : Nat, c.toNat + run.offset = letter :=
        Int.eq_ofNat_of_zero_le (by omega)
      have capitals : ∀ n < 0x5b, 0x41 ≤ n → (Char.ofNat n).isUpper := by decide
      rw [code]
      exact capitals letter (by omega) (by omega)
  · cases image

/-- From outside ASCII only capital letters are reached inside it. -/
theorem isUpper_of_mem_upper {c d : Char} (wide : ¬c.toNat < 0x80) (mem : d ∈ upper c)
    (ascii : d.toNat < 0x80)
    : d.isUpper := by
  rw [upper, if_neg wide] at mem
  unfold mapCase at mem
  split at mem
  · next codes found =>
    obtain ⟨code, inCodes, rfl⟩ := List.mem_map.mp mem
    obtain ⟨before, after, table, _⟩ := List.lookup_eq_some_iff.mp found
    have entry : (c.toNat, codes) ∈ upperExpansions := by simp [table]
    exact upperExpansions_cases _ entry code inCodes ascii
  · obtain rfl := List.mem_singleton.mp mem
    cases found : upperRuns.findSome? (·.image? c) with
    | none =>
      rw [found] at ascii
      exact absurd ascii wide
    | some d =>
      obtain ⟨run, inTable, image⟩ := List.exists_of_findSome?_eq_some found
      rw [found] at ascii
      exact isUpper_of_image? inTable image ascii

/-- An ASCII character of an upper case is its own upper case. -/
theorem upper_of_mem_upper {c d : Char} (mem : d ∈ upper c) (ascii : d.toNat < 0x80)
    : upper d = [d] := by
  rw [upper, if_pos ascii]
  by_cases small : c.toNat < 0x80
  · rw [upper, if_pos small] at mem
    obtain rfl := List.mem_singleton.mp mem
    rw [toUpper_toUpper small]
  · rw [toUpper_of_isUpper ascii (isUpper_of_mem_upper small mem ascii)]

end Unicode

namespace Text

theorem toList_upper (text : String) : (upper text).toList = text.toList.flatMap Unicode.upper := by
  rw [upper, String.toList_ofList]

theorem upper_upper {text : String} (ascii : ∀ c ∈ (upper text).toList, c.toNat < 0x80)
    : upper (upper text) = upper text := by
  have fixed : (upper text).toList.flatMap Unicode.upper = (upper text).toList := by
    have each : ∀ c ∈ (upper text).toList, Unicode.upper c = [c] := by
      intro c mem
      have small := ascii c mem
      rw [toList_upper] at mem
      obtain ⟨d, _, image⟩ := List.mem_flatMap.mp mem
      exact Unicode.upper_of_mem_upper image small
    rw [List.flatMap_congr each, List.flatMap_singleton']
  rw [upper, fixed, String.ofList_toList]

end Text

end Spreadsheet
