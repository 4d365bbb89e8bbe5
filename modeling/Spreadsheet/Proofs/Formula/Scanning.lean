import Spreadsheet.Proofs.Formula.ScannedTokens

/-! The scanner only moves forward. Behind each token it stands at a later place of the same text,
and it has come to the end when nothing but white space is left.
-/

namespace Spreadsheet

variable {cs rest : List Char}

/-- What follows a closing quote is the end of what was read, by induction along the scan. -/
theorem Text.suffix_of_splitQuoted {quote : Char} (h : (splitQuoted quote cs).2 = some rest)
    : rest <:+ cs := by
  fun_induction splitQuoted quote cs with
  | case1 => cases h
  | case2 =>
    cases h
    exact List.suffix_cons _ _
  | case3 => cases h
  | case4 _ _ ih => exact ((ih h).trans (List.suffix_cons _ _)).trans (List.suffix_cons _ _)
  | case5 =>
    cases h
    exact List.suffix_cons _ _
  | case6 _ _ _ _ _ ih => exact (ih h).trans (List.suffix_cons _ _)

namespace Token

-- What each scanner leaves is the end of what it was given

theorem suffix_of_dropWhile_eq_cons {p : Char → Bool} {c : Char} (h : cs.dropWhile p = c :: rest)
    : rest <:+ cs :=
  (List.suffix_cons c rest).trans (h ▸ List.dropWhile_suffix p)

theorem suffix_scanText (cs : List Char) : (scanText cs).2 <:+ cs := by
  unfold scanText
  split
  · next found => exact Text.suffix_of_splitQuoted (by rw [found])
  · exact List.nil_suffix

theorem suffix_scanQuotedSheet (cs : List Char) : (scanQuotedSheet cs).2 <:+ cs := by
  unfold scanQuotedSheet
  split
  · next found =>
    exact (List.suffix_cons _ _).trans (Text.suffix_of_splitQuoted (congrArg Prod.snd found))
  · next found => exact Text.suffix_of_splitQuoted (by rw [found])
  · exact List.nil_suffix

theorem suffix_scanBracketSheet (cs : List Char) : (scanBracketSheet cs).2 <:+ cs := by
  unfold scanBracketSheet
  dsimp only
  split
  · next found => exact suffix_of_dropWhile_eq_cons found
  · exact List.dropWhile_suffix _

theorem suffix_splitPoint (cs : List Char) : (splitPoint cs).2 <:+ cs := by
  unfold splitPoint
  split
  · exact (List.dropWhile_suffix _).trans (List.suffix_cons _ _)
  · exact List.suffix_rfl

theorem suffix_splitSign (cs : List Char) : (splitSign cs).2 <:+ cs := by
  unfold splitSign
  split
  · exact List.suffix_cons _ _
  · exact List.suffix_cons _ _
  · exact List.suffix_rfl

theorem suffix_splitExponent (cs : List Char) : (splitExponent cs).2 <:+ cs := by
  unfold splitExponent
  split
  · next c cs =>
    split
    · exact ((List.dropWhile_suffix _).trans (suffix_splitSign cs)).trans (List.suffix_cons c cs)
    · exact List.suffix_rfl
  · exact List.suffix_rfl

theorem scanNumber_snd (cs : List Char)
    : (scanNumber cs).2 = (splitExponent (splitPoint (cs.dropWhile Char.isDigit)).2).2 := by
  unfold scanNumber
  dsimp only
  split <;> rfl

theorem suffix_scanNumber (cs : List Char) : (scanNumber cs).2 <:+ cs := by
  rw [scanNumber_snd]
  exact ((suffix_splitExponent _).trans (suffix_splitPoint _)).trans (List.dropWhile_suffix _)

theorem suffix_scanError (cs : List Char) : (scanError cs).2 <:+ cs := by
  unfold scanError
  dsimp only
  split <;> exact List.dropWhile_suffix _

theorem suffix_of_lastSheet? {name : String} (h : lastSheet? cs = some (name, rest))
    : rest <:+ cs := by
  unfold lastSheet? at h
  dsimp only at h
  split at h
  · next found =>
    split at h
    · cases h
    · cases h
      exact suffix_of_dropWhile_eq_cons found
  · cases h

/-- A word that is followed by no second sheet gives back all that was looked at behind it. -/
theorem suffix_scanWord (cs : List Char) : (scanWord cs).2 <:+ cs := by
  unfold scanWord
  dsimp only
  split
  · next found => exact suffix_of_dropWhile_eq_cons found
  · next found =>
    split
    · next last => exact (suffix_of_lastSheet? last).trans (suffix_of_dropWhile_eq_cons found)
    · exact List.dropWhile_suffix _
  · exact List.dropWhile_suffix _

/-- What is left behind a token starts behind its first character at the earliest. -/
theorem suffix_scanAt (c : Char) (rest : List Char) : (scanAt c rest).2 <:+ rest := by
  -- A number or a word is scanned with its first character, of which it leaves nothing.
  have taken {more : List Char} (suffix : more <:+ c :: rest)
      (shorter : more.length < (c :: rest).length)
      : more <:+ rest := by
    rcases List.suffix_cons_iff.mp suffix with rfl | suffix
    · exact absurd shorter (Nat.lt_irrefl _)
    · exact suffix
  unfold scanAt
  split
  · exact List.suffix_rfl
  split
  · split
    · exact List.suffix_cons _ _
    · exact List.suffix_cons _ _
    · exact List.suffix_rfl
  split
  · split
    · exact List.suffix_cons _ _
    · exact List.suffix_rfl
  split
  · exact suffix_scanText rest
  split
  · exact suffix_scanQuotedSheet rest
  split
  · exact suffix_scanBracketSheet rest
  split
  · next starts =>
    refine taken (suffix_scanNumber _) (length_scanNumber_lt ?_)
    simp at starts
    exact starts.imp id And.left
  split
  · exact suffix_scanError rest
  split
  · next start =>
    exact taken (suffix_scanWord _) (length_scanWord_lt (isIdentifierChar_of_start start))
  · exact List.suffix_rfl

/-- There is no token just where nothing but white space is left. -/
theorem scan?_eq_none_iff : scan? cs = none ↔ ∀ c ∈ cs, Unicode.isWhiteSpace c := by
  rw [← List.dropWhile_eq_nil_iff, scan?]
  cases cs.dropWhile Unicode.isWhiteSpace <;> simp

/-- A token takes some characters off the front of a text. -/
theorem exists_of_scan? {token : Token} (h : scan? cs = some (token, rest))
    : ∃ taken, taken ≠ [] ∧ cs = taken ++ rest := by
  have suffix : rest <:+ cs := by
    unfold scan? at h
    split at h
    · cases h
    · next c after found =>
      have left : (scanAt c after).2 <:+ after := suffix_scanAt c after
      rw [Option.some.inj h] at left
      exact left.trans (suffix_of_dropWhile_eq_cons found)
  obtain ⟨taken, rfl⟩ := suffix
  refine ⟨taken, fun none => ?_, rfl⟩
  subst none
  exact absurd (length_lt_of_scan? h) (Nat.lt_irrefl _)

-- Places in a text

/-- The characters of a text from a position on. -/
def remaining {text : String} (p : text.Pos) : List Char :=
  (text.sliceFrom p).copy.toList

theorem remaining_startPos (text : String) : remaining text.startPos = text.toList := by
  rw [remaining, text.startPos.splits.eq_right (String.splits_startPos text)]

/-- Wherever the characters from a position on can be cut, there is a position. -/
theorem exists_pos_of_remaining {text : String} {p : text.Pos} {taken : List Char}
    (h : remaining p = taken ++ rest)
    : ∃ q : text.Pos, remaining q = rest ∧ (taken ≠ [] → p < q) := by
  have before := p.splits
  have whole : text = ((text.sliceTo p).copy ++ String.ofList taken) ++ String.ofList rest := by
    have cut : (text.sliceFrom p).copy = String.ofList taken ++ String.ofList rest := by
      rw [← String.ofList_append, ← h, remaining, String.ofList_toList]
    rw [String.append_assoc, ← cut]
    exact before.eq_append
  let q : text.Pos := ⟨_, String.Pos.Raw.isValid_iff_exists_append.mpr ⟨_, _, whole, rfl⟩⟩
  have behind : q.Splits ((text.sliceTo p).copy ++ String.ofList taken) (String.ofList rest) :=
    ⟨whole, rfl⟩
  refine ⟨q, ?_, fun nonempty => ?_⟩
  · rw [remaining, q.splits.eq_right behind, String.toList_ofList]
  · have longer : 0 < (String.ofList taken).utf8ByteSize := by
      refine Nat.pos_of_ne_zero fun none => nonempty ?_
      rw [← String.toList_ofList (l := taken), String.utf8ByteSize_eq_zero_iff.mp none]
      rfl
    rw [String.Pos.lt_iff, before.offset_eq_rawEndPos, behind.offset_eq_rawEndPos,
      String.Pos.Raw.lt_iff, String.byteIdx_rawEndPos, String.byteIdx_rawEndPos,
      String.utf8ByteSize_append]
    exact Nat.lt_add_of_pos_right longer

/-- From every position of a text on, there either is nothing but white space, or a token up to a
later position.
-/
theorem scan?_remaining {text : String} (p : text.Pos)
    : (scan? (remaining p) = none
          ∧ scanAll (remaining p) = []
          ∧ ∀ c ∈ remaining p, Unicode.isWhiteSpace c)
      ∨ ∃ token, ∃ q : text.Pos,
          p < q
          ∧ scan? (remaining p) = some (token, remaining q)
          ∧ scanAll (remaining p) = token :: scanAll (remaining q) := by
  cases scanned : scan? (remaining p) with
  | none => exact .inl ⟨rfl, scanAll_eq_nil scanned, scan?_eq_none_iff.mp scanned⟩
  | some found =>
    obtain ⟨token, rest⟩ := found
    obtain ⟨taken, nonempty, cut⟩ := exists_of_scan? scanned
    obtain ⟨q, rfl, later⟩ := exists_pos_of_remaining cut
    exact .inr ⟨token, q, later nonempty, rfl, scanAll_of_scan? scanned⟩

/-- There are no more tokens than characters, by induction along the scan. -/
theorem length_scanAll_le (cs : List Char) : (scanAll cs).length ≤ cs.length := by
  induction cs using scanAll.induct with
  | case1 cs token rest found ih =>
    rw [scanAll_of_scan? found, List.length_cons]
    exact Nat.succ_le_of_lt (Nat.lt_of_le_of_lt ih (length_lt_of_scan? found))
  | case2 cs found =>
    rw [scanAll_eq_nil found]
    exact Nat.zero_le _

end Token

end Spreadsheet
