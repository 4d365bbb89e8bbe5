import Spreadsheet.Proofs.Formula.Spelling
import Spreadsheet.Proofs.Text.UpperCase

/-! Words in written formulas: truth values, names, functions in front of their parentheses, and
addresses. What a word is depends on the character behind it, and on the next word if that
character is a colon.
-/

namespace Spreadsheet.Token

open Text

variable {rest : List Char} {name : String} {c : Char}

-- Words

theorem not_isWhiteSpace_of_isIdentifierChar (h : isIdentifierChar c)
    : Unicode.isWhiteSpace c = false := by
  simp only [isIdentifierChar, Bool.or_eq_true, decide_eq_true_eq] at h
  rcases h with (((h | rfl) | rfl) | rfl) | rfl
  · exact Unicode.not_isWhiteSpace_of_isAlphanumeric h
  all_goals decide

theorem isIdentifierChar_of_isAlphanumeric (h : Unicode.isAlphanumeric c) : isIdentifierChar c := by
  simp [isIdentifierChar, h]

/-- An identifier is scanned as a word from its first character on. -/
theorem scanAt_of_isIdentifierStart (h : isIdentifierStart c)
    : scanAt c rest = scanWord (c :: rest) := by
  have other {d : Char} (noStart : isIdentifierStart d = false) : c ≠ d := by
    intro same
    subst same
    exact absurd h (by simp [noStart])
  have noSign : c ∉ signs := by
    intro mem
    have others : signs.all fun c => !isIdentifierStart c := by decide
    simpa [h] using List.all_eq_true.mp others c mem
  have noDigit : c.isDigit = false := by
    refine Bool.eq_false_iff.mpr fun digit => ?_
    have noStart : isIdentifierStart c = false :=
      Unicode.forall_digit (P := fun c => isIdentifierStart c = false) (by decide) digit
    exact absurd h (by simp [noStart])
  have noPoint : c ≠ '.' := other (by decide)
  have noNumber : ¬startsNumber c rest := by simp [startsNumber, noDigit, noPoint]
  rw [scanAt_of_not_mem_signs noSign, if_neg noNumber, if_neg (other (by decide)), if_pos h]

theorem scan?_word {token : Token} {more : List Char} (isWord : IsWord name)
    (scanned : scanWord (name.toList ++ more) = (token, rest))
    : scan? (name.toList ++ more) = some (token, rest) := by
  obtain ⟨c, first, start⟩ := isWord.start
  obtain ⟨cs, written⟩ := List.head?_eq_some_iff.mp first
  rw [written, List.cons_append] at scanned ⊢
  have visible := not_isWhiteSpace_of_isIdentifierChar (isIdentifierChar_of_start start)
  rw [scan?_of_visible visible, scanAt_of_isIdentifierStart start, scanned]

theorem scanAll_word {token : Token} {more : List Char} (isWord : IsWord name)
    (scanned : scanWord (name.toList ++ more) = (token, rest))
    : scanAll (name.toList ++ more) = token :: scanAll rest :=
  scanAll_of_scan? (scan?_word isWord scanned)

/-- A word with neither an exclamation mark nor a span of sheets behind it stands for itself. -/
theorem scanWord_plain (isWord : IsWord name) (stops : StopsAt isIdentifierChar rest)
    (noSheet : rest.head? ≠ some '!')
    (noSpan : ∀ after, rest = ':' :: after → lastSheet? after = none)
    : scanWord (name.toList ++ rest) = (ofWord name.toList rest, rest) := by
  unfold scanWord
  rw [takeWhile_run isWord.chars stops, dropWhile_run isWord.chars stops]
  dsimp only
  split
  · exact absurd rfl noSheet
  · next after => rw [noSpan after rfl]
  · rfl

/-- A word that is kept apart from what follows stands for itself. -/
theorem spells_word (name : String) {token : Token} (isWord : IsWord name)
    (read : ∀ rest, rest.head? ≠ some '(' → ofWord name.toList rest = token)
    : Spells name.toList [token] := by
  intro rest delimited
  have stops : StopsAt isIdentifierChar rest := delimited.stopsAt (by decide)
  have scanned : scanWord (name.toList ++ rest) = (token, rest) := by
    rw [scanWord_plain isWord stops (delimited.head?_ne (by decide)),
      read rest (delimited.head?_ne (by decide))]
    intro after same
    subst same
    exact absurd rfl (delimited.head?_ne (c := ':') (by decide))
  rw [scanAll_word isWord scanned]
  rfl

theorem spells_boolean (value : Bool) : Spells (ofBool value).toList [boolean value] := by
  cases value with
  | true =>
    have chars : "TRUE".toList.all isIdentifierChar := by decide
    refine spells_word "TRUE" ⟨⟨'T', rfl, rfl⟩, List.all_eq_true.mp chars⟩ fun rest noCall => ?_
    rw [ofWord, if_neg noCall]
    rfl
  | false =>
    have chars : "FALSE".toList.all isIdentifierChar := by decide
    refine spells_word "FALSE" ⟨⟨'F', rfl, rfl⟩, List.all_eq_true.mp chars⟩ fun rest noCall => ?_
    rw [ofWord, if_neg noCall]
    rfl

theorem spells_name (isName : IsName name) : Spells name.toList [identifier name] := by
  refine spells_word name isName.toIsWord fun rest noCall => ?_
  rw [ofWord, if_neg noCall, String.ofList_toList, isName.noBoolean, isName.noCell]
  rfl

/-- In front of a parenthesis every word is a function. -/
theorem scanAll_call (isWord : IsWord name)
    : scanAll (name.toList ++ '(' :: rest) = identifier name :: leftParen :: scanAll rest := by
  have stops : StopsAt isIdentifierChar ('(' :: rest) := stopsAt_cons (by decide)
  have scanned : scanWord (name.toList ++ '(' :: rest) = (identifier name, '(' :: rest) := by
    rw [scanWord_plain isWord stops (by simp) (by simp), ofWord, List.head?_cons, if_pos rfl,
      String.ofList_toList]
  rw [scanAll_word isWord scanned, scanAll_cons (c := '(') (by decide) rfl]

theorem ascii_of_isIdentifierStart (h : isIdentifierStart c) : c.toNat < 0x80 := by
  simp only [isIdentifierStart, Bool.or_eq_true, decide_eq_true_eq] at h
  rcases h with ((letter | rfl) | rfl) | rfl
  · exact Unicode.ascii_of_isAlpha letter
  all_goals decide

/-- ASCII characters in the upper case of a word can stand in a word. -/
theorem isIdentifierChar_of_mem_upper (isWord : IsWord name)
    (ascii : ∀ c ∈ (upper name).toList, c.toNat < 0x80)
    : ∀ c ∈ (upper name).toList, isIdentifierChar c := by
  have inside : ∀ n < 0x80, isIdentifierChar (Char.ofNat n)
      → isIdentifierChar (Char.ofNat n).toUpper := by
    decide
  intro d mem
  have smallImage := ascii d mem
  rw [toList_upper] at mem
  obtain ⟨c, inWord, image⟩ := List.mem_flatMap.mp mem
  by_cases small : c.toNat < 0x80
  · rw [Unicode.upper, if_pos small] at image
    obtain rfl := List.mem_singleton.mp image
    exact Unicode.forall_ascii (P := fun c => isIdentifierChar c → isIdentifierChar c.toUpper)
      inside small (isWord.chars c inWord)
  · have capital := Unicode.isUpper_of_mem_upper small image smallImage
    refine isIdentifierChar_of_isAlphanumeric (Unicode.isAlphanumeric_of_isAlpha ?_)
    exact Bool.or_eq_true_iff.mpr (.inl capital)

/-- A word in upper case still starts like one, so only its further characters may spoil it. -/
theorem isWord_upper (isWord : IsWord name)
    (inside : ∀ c ∈ (upper name).toList, isIdentifierChar c)
    : IsWord (upper name) := by
  have starts : ∀ n < 0x80, isIdentifierStart (Char.ofNat n)
      → isIdentifierStart (Char.ofNat n).toUpper := by
    decide
  refine ⟨?_, inside⟩
  obtain ⟨c, first, start⟩ := isWord.start
  obtain ⟨cs, written⟩ := List.head?_eq_some_iff.mp first
  have small : c.toNat < 0x80 := ascii_of_isIdentifierStart start
  refine ⟨c.toUpper, ?_, ?_⟩
  · rw [toList_upper, written, List.flatMap_cons, Unicode.upper, if_pos small]
    rfl
  · exact Unicode.forall_ascii (P := fun c => isIdentifierStart c → isIdentifierStart c.toUpper)
      starts small start

-- Addresses

variable {a b : Address}

theorem isWord_text (a : Address) : IsWord a.text := by
  rw [Address.text]
  constructor
  · rw [String.toList_ofList, Address.chars_eq]
    cases a.colAbsolute with
    | true => exact ⟨'$', rfl, rfl⟩
    | false =>
      obtain ⟨c, cs, letters, letter⟩ := Column.exists_letters a.col
      rw [letters]
      exact ⟨c, rfl, by simp [isIdentifierStart, letter]⟩
  · rw [String.toList_ofList]
    intro c mem
    rcases Address.char_cases mem with rfl | letter | digit
    · decide
    · exact isIdentifierChar_of_isAlphanumeric (Unicode.isAlphanumeric_of_isAlpha letter)
    · exact isIdentifierChar_of_isAlphanumeric (Unicode.isAlphanumeric_of_isDigit digit)

/-- No truth value has a digit in it. -/
theorem boolean?_of_digit (mem : c ∈ name.toList) (digit : c.isDigit) : boolean? name = none := by
  have other : c.toLower ∉ "truefalse".toList :=
    Unicode.forall_digit (P := fun c => c.toLower ∉ "truefalse".toList) (by decide) digit
  have differs {value : String} (letters : value.toList.map Char.toLower ⊆ "truefalse".toList)
      : eqIgnoringAsciiCase name value = false := by
    refine Bool.eq_false_iff.mpr fun same => other (letters ?_)
    rw [← eq_of_beq same]
    exact List.mem_map_of_mem mem
  rw [boolean?, differs (by decide), differs (by decide)]
  rfl

theorem ofWord_address (inGrid : a.position.InGrid) {rest : List Char}
    (noCall : rest.head? ≠ some '(')
    : ofWord a.text.toList rest = cell a.text := by
  obtain ⟨c, cs, digits, digit⟩ := Number.Numeral.exists_toDigits (a.row + 1)
  have mem : c ∈ a.text.toList := by
    rw [Address.text, String.toList_ofList, Address.chars_eq, digits]
    simp
  rw [ofWord, if_neg noCall, String.ofList_toList, boolean?_of_digit mem digit]
  dsimp only
  rw [if_pos]
  rw [Address.text, String.toList_ofList]
  exact Address.hasCellShape_chars inGrid

theorem spells_address (inGrid : a.position.InGrid) : Spells a.text.toList [cell a.text] :=
  spells_word a.text (isWord_text a) fun _ noCall => ofWord_address inGrid noCall

theorem lastSheet?_eq_none (isWord : IsWord name) (stops : StopsAt isIdentifierChar rest)
    (noSheet : rest.head? ≠ some '!')
    : lastSheet? (name.toList ++ rest) = none := by
  unfold lastSheet?
  rw [takeWhile_run isWord.chars stops, dropWhile_run isWord.chars stops]
  dsimp only
  split
  · exact absurd rfl noSheet
  · rfl

/-- The second corner of a range is not taken for the last sheet of a span. -/
theorem spells_corners (left : a.position.InGrid) (right : b.position.InGrid)
    : Spells (a.text.toList ++ ':' :: b.text.toList) [cell a.text, colon, cell b.text] := by
  intro rest delimited
  have stops : StopsAt isIdentifierChar (':' :: (b.text.toList ++ rest)) :=
    stopsAt_cons (by decide)
  have behind : Delimited b.text.toList rest := by
    have delimited := delimited.of_append a.text.toList
    exact delimited.of_append [':']
  have noLast : lastSheet? (b.text.toList ++ rest) = none :=
    lastSheet?_eq_none (isWord_text b) (behind.stopsAt (by decide)) (behind.head?_ne (by decide))
  have scanned : scanWord (a.text.toList ++ ':' :: (b.text.toList ++ rest))
      = (cell a.text, ':' :: (b.text.toList ++ rest)) := by
    rw [scanWord_plain (isWord_text a) stops (by simp), ofWord_address left (by simp)]
    intro after same
    cases same
    exact noLast
  rw [List.append_assoc, List.cons_append, scanAll_word (isWord_text a) scanned,
    scanAll_cons (c := ':') (by decide) rfl, spells_address right rest behind]
  rfl

end Spreadsheet.Token
