import Spreadsheet.Proofs.Formula.Scanning

/-! The opening parentheses of a text and of the tokens cut from it. Apart from the parentheses of
the grammar, only texts and quoted sheets can hold any, and no token has more than it took.
-/

namespace Spreadsheet

namespace Text

variable {c : Char}

/-- The two pieces of a quoted text hold no more of a character than the whole, by induction along
the scan.
-/
theorem count_splitQuoted_le (quote : Char) (cs : List Char)
    : (splitQuoted quote cs).1.count c + ((splitQuoted quote cs).2.getD []).count c
      ≤ cs.count c := by
  fun_induction splitQuoted quote cs with
  | case1 => simp
  | case2 => simp
  | case3 => simp
  | case4 rest read ih =>
    simp only [read, List.count_cons] at ih ⊢
    omega
  | case5 => simpa using List.count_le_count_cons
  | case6 a b rest _ read ih =>
    simp only [read, List.count_cons] at ih ⊢
    omega

theorem count_cutAt_le (separator : Char) (cs : List Char)
    : (cutAt separator cs).1.count c + ((cutAt separator cs).2.getD []).count c ≤ cs.count c := by
  induction cs with
  | nil => simp [cutAt]
  | cons d rest ih =>
    rw [cutAt]
    split
    · simp [List.count_cons]
    · simp only [List.count_cons]
      omega

end Text

/-- The opening parentheses in the names of sheets. -/
def SheetRef.openings (r : SheetRef) : Nat :=
  r.first.toList.count '(' + ((r.last.map String.toList).getD []).count '('

theorem SheetRef.openings_span?_le {book : Option Nat} {cs : List Char} {r : SheetRef}
    (h : span? book cs = some r)
    : r.openings ≤ cs.count '(' := by
  have pieces := Text.count_cutAt_le (c := '(') ':' cs
  unfold span? at h
  split at h
  · cases h
  · cases h
  · next first last _ _ found =>
    cases h
    rw [found] at pieces
    cases last <;> simpa [openings] using pieces

theorem SheetRef.openings_ofChars?_le {cs : List Char} {r : SheetRef} (h : ofChars? cs = some r)
    : r.openings ≤ cs.count '(' := by
  unfold ofChars? at h
  split at h
  · next cs =>
    have pieces := Text.count_cutAt_le (c := '(') ']' cs
    split at h
    · next index names found =>
      obtain ⟨book, _, h⟩ := Option.bind_eq_some_iff.mp h
      have := openings_span?_le h
      rw [found] at pieces
      simp only [Option.getD_some, List.count_cons] at pieces ⊢
      omega
    · cases h
  · exact openings_span?_le h

namespace Token

variable {cs rest : List Char}

/-- The opening parentheses that a token stands for. -/
def openings : Token → Nat
  | text value => value.toList.count '('
  | identifier name => name.toList.count '('
  | sheet r => r.openings
  | leftParen => 1
  | _ => 0

/-- A token stands for no parentheses but those it took. -/
theorem openings_ofSheetChars_le (cs : List Char) : (ofSheetChars cs).openings ≤ cs.count '(' := by
  unfold ofSheetChars
  split
  · next found => exact SheetRef.openings_ofChars?_le found
  · exact Nat.zero_le _

theorem openings_scanText_le (cs : List Char)
    : (scanText cs).1.openings + (scanText cs).2.count '(' ≤ cs.count '(' := by
  have pieces := Text.count_splitQuoted_le (c := '(') '"' cs
  unfold scanText
  split
  · next found =>
    rw [found] at pieces
    simpa [openings] using pieces
  · exact Nat.zero_le _

theorem openings_scanQuotedSheet_le (cs : List Char)
    : (scanQuotedSheet cs).1.openings + (scanQuotedSheet cs).2.count '(' ≤ cs.count '(' := by
  have pieces := Text.count_splitQuoted_le (c := '(') '\'' cs
  unfold scanQuotedSheet
  split
  · next name rest found =>
    have := openings_ofSheetChars_le name
    simp [found] at pieces
    dsimp only
    omega
  · next found =>
    rw [found] at pieces
    simp only [Option.getD_some, openings] at pieces ⊢
    omega
  · exact Nat.zero_le _

/-- Where a run of characters may not hold parentheses, there are none. -/
theorem count_takeWhile {p : Char → Bool} (h : p '(' = false) (cs : List Char)
    : (cs.takeWhile p).count '(' = 0 := by
  refine List.count_eq_zero.mpr fun mem => ?_
  rw [List.all_eq_true.mp List.all_takeWhile _ mem] at h
  cases h

theorem openings_scanBracketSheet (cs : List Char) : (scanBracketSheet cs).1.openings = 0 := by
  have name : ('[' :: cs.takeWhile isBracketChar).count '(' = 0 := by
    rw [List.count_cons_of_ne (by decide), count_takeWhile (by decide)]
  unfold scanBracketSheet
  dsimp only
  split
  · exact Nat.le_zero.mp (name ▸ openings_ofSheetChars_le _)
  · rfl

theorem openings_scanNumber (cs : List Char) : (scanNumber cs).1.openings = 0 := by
  unfold scanNumber
  dsimp only
  split <;> rfl

theorem openings_scanError (cs : List Char) : (scanError cs).1.openings = 0 := by
  unfold scanError
  dsimp only
  split <;> rfl

theorem openings_ofWord {word : List Char} (none : word.count '(' = 0) (rest : List Char)
    : (ofWord word rest).openings = 0 := by
  have name : (String.ofList word).toList.count '(' = 0 := by rwa [String.toList_ofList]
  unfold ofWord
  dsimp only
  split
  · exact name
  · split
    · rfl
    · split
      · rfl
      · exact name

theorem openings_scanWord (cs : List Char) : (scanWord cs).1.openings = 0 := by
  have word : (cs.takeWhile isIdentifierChar).count '(' = 0 := count_takeWhile (by decide) cs
  unfold scanWord
  dsimp only
  split
  · simpa [openings, SheetRef.openings] using word
  · split
    · next last rest found =>
      have name : last.toList.count '(' = 0 := by
        unfold lastSheet? at found
        dsimp only at found
        split at found
        · split at found
          · cases found
          · cases found
            rw [String.toList_ofList]
            exact count_takeWhile (by decide) _
        · cases found
      simp [openings, SheetRef.openings, word, name]
    · exact openings_ofWord word _
  · exact openings_ofWord word _

theorem openings_punctuation_le {c : Char} {token : Token} (h : punctuation? c = some token)
    : token.openings ≤ [c].count '(' := by
  unfold punctuation? at h
  split at h <;> cases h <;> decide

/-- What a token stands for and what is left behind it have no more parentheses than what it was
read from, by cases on its scanner.
-/
theorem openings_scanAt_le (c : Char) (rest : List Char)
    : (scanAt c rest).1.openings + (scanAt c rest).2.count '(' ≤ (c :: rest).count '(' := by
  have less : rest.count '(' ≤ (c :: rest).count '(' := List.count_le_count_cons
  have left : (scanAt c rest).2.count '(' ≤ rest.count '(' :=
    (suffix_scanAt c rest).sublist.count_le '('
  have none (zero : (scanAt c rest).1.openings = 0)
      : (scanAt c rest).1.openings + (scanAt c rest).2.count '(' ≤ (c :: rest).count '(' := by
    omega
  rcases scanAt_cases c rest with ⟨token, found, same⟩ | ⟨token, mem, more, _, same⟩ | same | same
    | same | ⟨_, same⟩ | same | ⟨_, same⟩ | same
  · have head := openings_punctuation_le found
    rw [same, ← List.singleton_append, List.count_append]
    exact Nat.add_le_add_right head _
  · refine none ?_
    rw [same]
    simp only [List.mem_cons, List.not_mem_nil, or_false] at mem
    rcases mem with rfl | rfl | rfl | rfl | rfl <;> rfl
  · exact same ▸ (openings_scanText_le rest).trans less
  · exact same ▸ (openings_scanQuotedSheet_le rest).trans less
  · exact none (same ▸ openings_scanBracketSheet rest)
  · exact none (same ▸ openings_scanNumber _)
  · exact none (same ▸ openings_scanError rest)
  · exact none (same ▸ openings_scanWord _)
  · exact none (same ▸ rfl)

/-- Tokens stand for no more parentheses than the text they were cut from, by induction along the
scan.
-/
theorem sum_openings_scanAll_le (cs : List Char)
    : ((scanAll cs).map openings).sum ≤ cs.count '(' := by
  induction cs using scanAll.induct with
  | case1 cs token rest found ih =>
    have first : token.openings + rest.count '(' ≤ cs.count '(' := by
      have whole := (List.dropWhile_suffix Unicode.isWhiteSpace (l := cs)).sublist.count_le '('
      unfold scan? at found
      split at found
      · cases found
      · next c after visible =>
        have step := openings_scanAt_le c after
        rw [Option.some.inj found] at step
        exact step.trans (visible ▸ whole)
    rw [scanAll_of_scan? found, List.map_cons, List.sum_cons]
    omega
  | case2 cs found =>
    rw [scanAll_eq_nil found]
    exact Nat.zero_le _

end Token

end Spreadsheet
