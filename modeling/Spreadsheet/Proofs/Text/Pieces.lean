import Spreadsheet.Text.Cut
import Spreadsheet.Text.Quoted

/-! Texts that were put together come apart where they were joined: in front of a character that
does not go on with a run, at a separator, or behind a closing quote.
-/

namespace Spreadsheet.Text

/-- The next character, if there is one, is not of a certain kind. -/
def StopsAt (p : Char → Bool) (rest : List Char) : Prop :=
  ∀ c ∈ rest.head?, p c = false

theorem stopsAt_cons {p : Char → Bool} {c : Char} {rest : List Char} (other : p c = false)
    : StopsAt p (c :: rest) := by
  intro d next
  cases next
  exact other

theorem takeWhile_append_of_stopsAt {p : Char → Bool} (cs : List Char) {rest : List Char}
    (stops : StopsAt p rest)
    : (cs ++ rest).takeWhile p = cs.takeWhile p := by
  induction cs with
  | nil =>
    cases rest with
    | nil => rfl
    | cons c rest => exact List.takeWhile_cons_of_neg (by simp [stops c rfl])
  | cons c cs ih => simp only [List.cons_append, List.takeWhile_cons, ih]

theorem dropWhile_append_of_stopsAt {p : Char → Bool} (cs : List Char) {rest : List Char}
    (stops : StopsAt p rest)
    : (cs ++ rest).dropWhile p = cs.dropWhile p ++ rest := by
  induction cs with
  | nil =>
    cases rest with
    | nil => rfl
    | cons c rest => exact List.dropWhile_cons_of_neg (by simp [stops c rfl])
  | cons c cs ih =>
    simp only [List.cons_append, List.dropWhile_cons, ih]
    split <;> rfl

/-- A run is as long as its kind of characters goes on. -/
theorem takeWhile_run {p : Char → Bool} {run rest : List Char} (all : ∀ c ∈ run, p c)
    (stops : StopsAt p rest)
    : (run ++ rest).takeWhile p = run := by
  rw [takeWhile_append_of_stopsAt run stops]
  have whole : (run ++ []).takeWhile p = run ++ [].takeWhile p := List.takeWhile_append_of_pos all
  simpa using whole

theorem dropWhile_run {p : Char → Bool} {run rest : List Char} (all : ∀ c ∈ run, p c)
    (stops : StopsAt p rest)
    : (run ++ rest).dropWhile p = rest := by
  rw [dropWhile_append_of_stopsAt run stops]
  have whole : (run ++ []).dropWhile p = [].dropWhile p := List.dropWhile_append_of_pos all
  simpa using whole

theorem cutAt_of_not_mem {separator : Char} {cs : List Char} (h : separator ∉ cs)
    : cutAt separator cs = (cs, none) := by
  induction cs with
  | nil => rfl
  | cons c cs ih =>
    simp only [List.mem_cons, not_or] at h
    rw [cutAt, if_neg (Ne.symm h.1), ih h.2]

theorem cutAt_append {separator : Char} {left : List Char} (right : List Char)
    (h : separator ∉ left)
    : cutAt separator (left ++ separator :: right) = (left, some right) := by
  induction left with
  | nil => simp [cutAt]
  | cons c left ih =>
    simp only [List.mem_cons, not_or] at h
    rw [List.cons_append, cutAt, if_neg (Ne.symm h.1), ih h.2]

theorem pieces_of_not_mem {separator : Char} {cs : List Char} (h : separator ∉ cs)
    : pieces separator cs = [cs] := by
  induction cs with
  | nil => rfl
  | cons c cs ih =>
    simp only [List.mem_cons, not_or] at h
    rw [pieces, if_neg (Ne.symm h.1), ih h.2]

theorem pieces_append {separator : Char} {left : List Char} (right : List Char)
    (h : separator ∉ left)
    : pieces separator (left ++ separator :: right) = left :: pieces separator right := by
  induction left with
  | nil => rw [List.nil_append, pieces, if_pos rfl]
  | cons c left ih =>
    simp only [List.mem_cons, not_or] at h
    rw [List.cons_append, pieces, if_neg (Ne.symm h.1), ih h.2]

theorem double_append (quote : Char) (left right : List Char)
    : double quote (left ++ right) = double quote left ++ double quote right := by
  induction left with
  | nil => rfl
  | cons c left ih =>
    rw [List.cons_append, double, double, ih]
    split <;> simp

theorem double_of_not_mem {quote : Char} {cs : List Char} (h : quote ∉ cs)
    : double quote cs = cs := by
  induction cs with
  | nil => rfl
  | cons c cs ih =>
    simp only [List.mem_cons, not_or] at h
    rw [double, if_neg (Ne.symm h.1), ih h.2]

/-- Behind its opening quote a quoted text is read to the end, and no further. -/
theorem splitQuoted_double {quote : Char} (cs : List Char) {rest : List Char}
    (closed : rest.head? ≠ some quote)
    : splitQuoted quote (double quote cs ++ quote :: rest) = (cs, some rest) := by
  induction cs with
  | nil =>
    cases rest with
    | nil => simp [double, splitQuoted]
    | cons d rest =>
      have other : d ≠ quote := by simpa using closed
      simp [double, splitQuoted, other]
  | cons c cs ih =>
    rw [double]
    split
    · next same =>
      subst same
      simp [splitQuoted, ih]
    · next other =>
      -- The scan looks one character ahead, and there always is one.
      cases tail : double quote cs ++ quote :: rest with
      | nil => simp at tail
      | cons d more =>
        rw [List.cons_append, tail, splitQuoted, if_neg other, ← tail, ih]

end Spreadsheet.Text
