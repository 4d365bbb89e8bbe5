import Spreadsheet.Proofs.Text.Pieces
import Spreadsheet.Unicode.WhiteSpace

/-! What is left of a text when white space has been dropped at both ends, and its first word. -/

namespace Spreadsheet.Unicode

theorem isWhiteSpace_of_head {cs : List Char} {c : Char}
    (h : (cs.dropWhile isWhiteSpace).head? = some c)
    : isWhiteSpace c = false := by
  obtain ⟨rest, found⟩ := List.head?_eq_some_iff.mp h
  have nonempty : cs.dropWhile isWhiteSpace ≠ [] := by simp [found]
  have := List.head_dropWhile_not isWhiteSpace nonempty
  simpa only [found, List.head_cons] using this

/-- The first visible character stays in front. -/
theorem trim_of_head {cs : List Char} {c : Char}
    (h : (cs.dropWhile isWhiteSpace).head? = some c)
    : ∃ rest, trim cs = c :: rest := by
  have visible := isWhiteSpace_of_head h
  obtain ⟨rest, found⟩ := List.head?_eq_some_iff.mp h
  refine ⟨(rest.reverse.dropWhile isWhiteSpace).reverse, ?_⟩
  rw [trim, found, List.reverse_cons, List.dropWhile_append]
  split
  · next blank =>
    rw [List.isEmpty_iff.mp blank, List.dropWhile_cons_of_neg (by simp [visible])]
    rfl
  · rw [List.reverse_append]
    rfl

/-- A text without white space at its ends stays as it is. -/
theorem trim_eq_self {cs : List Char}
    (first : ∀ c ∈ cs.head?, isWhiteSpace c = false)
    (last : ∀ c ∈ cs.getLast?, isWhiteSpace c = false)
    : trim cs = cs := by
  have dropped {ds : List Char} (h : ∀ c ∈ ds.head?, isWhiteSpace c = false)
      : ds.dropWhile isWhiteSpace = ds := by
    cases ds with
    | nil => rfl
    | cons d ds => exact List.dropWhile_cons_of_neg (by simpa using h d rfl)
  rw [trim, dropped first, dropped (by simpa using last), List.reverse_reverse]

-- A word between white space

section

variable {before word : List Char} (blank : ∀ c ∈ before, isWhiteSpace c)
  (visible : ∀ c ∈ word, isWhiteSpace c = false) (nonempty : word ≠ [])

include blank visible nonempty

theorem dropWhile_append_word (after : List Char)
    : (before ++ (word ++ after)).dropWhile isWhiteSpace = word ++ after := by
  obtain ⟨c, cs, rfl⟩ := List.exists_cons_of_ne_nil nonempty
  exact Text.dropWhile_run blank (Text.stopsAt_cons (visible c List.mem_cons_self))

/-- Whatever follows it, a word stays in front. -/
theorem trim_append_word (after : List Char)
    : ∃ rest, trim (before ++ (word ++ after)) = word ++ rest := by
  rw [trim, dropWhile_append_word blank visible nonempty, List.reverse_append,
    List.dropWhile_append]
  split
  · refine ⟨[], ?_⟩
    have last (c : Char) (first : c ∈ word.reverse.head?) : isWhiteSpace c = false :=
      visible c (List.mem_reverse.mp (List.mem_of_mem_head? first))
    have kept := @Text.dropWhile_run isWhiteSpace [] word.reverse nofun last
    rw [List.nil_append] at kept
    rw [kept, List.reverse_reverse, List.append_nil]
  · exact ⟨_, by rw [List.reverse_append, List.reverse_reverse]⟩

/-- The first word ends where white space begins. -/
theorem firstWord_append {after : List Char} (stops : Text.StopsAt (!isWhiteSpace ·) after)
    : firstWord (before ++ (word ++ after)) = word := by
  rw [firstWord, dropWhile_append_word blank visible nonempty]
  exact Text.takeWhile_run (fun c mem => by rw [visible c mem]; rfl) stops

end

end Spreadsheet.Unicode
