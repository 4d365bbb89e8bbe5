import Spreadsheet.Proofs.Formula.ScannedTokens
import Spreadsheet.Proofs.Formula.Grammar
import Spreadsheet.Proofs.Grid.Address

/-! Pieces of written formulas and the tokens that they spell. A piece keeps its tokens whatever
follows it, as long as a character comes next that can be no part of the piece.
-/

namespace Spreadsheet.Token

open Text

-- Pieces and what may follow them

/-- Characters that can follow a piece of a formula. -/
def delimiters : List Char :=
  ['+', '-', '*', '/', '^', '&', '=', '<', '>', '%', ',', ';', ')', '\x7d']

/-- A text ends in the literal of an error. -/
def EndsInError (cs : List Char) : Prop :=
  ∃ e : CellError, e.text.toList <:+ cs

/-- A text is kept apart from what follows. A slash behind the literal of an error would be read
as a part of it.
-/
def Delimited (cs rest : List Char) : Prop :=
  ∀ c ∈ rest.head?, c ∈ delimiters ∧ (c = '/' → ¬EndsInError cs)

/-- A text is scanned as these tokens if it is kept apart from what follows. -/
def Spells (cs : List Char) (ts : List Token) : Prop :=
  ∀ rest, Delimited cs rest → scanAll (cs ++ rest) = ts ++ scanAll rest

variable {cs ds rest : List Char} {ts us : List Token} {token : Token} {c : Char}

theorem Delimited.of_append (cs : List Char) (h : Delimited (cs ++ ds) rest)
    : Delimited ds rest := by
  intro c next
  obtain ⟨delimiter, noError⟩ := h c next
  refine ⟨delimiter, fun slash ends => noError slash ?_⟩
  obtain ⟨e, suffix⟩ := ends
  exact ⟨e, suffix.trans (List.suffix_append cs ds)⟩

theorem Delimited.stopsAt {p : Char → Bool} (h : Delimited cs rest)
    (none : delimiters.all fun c => !p c)
    : StopsAt p rest := by
  intro c next
  simpa using List.all_eq_true.mp none c (h c next).1

theorem Delimited.head?_ne (h : Delimited cs rest) (other : c ∉ delimiters)
    : rest.head? ≠ some c :=
  fun next => other (h c next).1

/-- Any delimiter keeps a text apart, if it is no slash. -/
theorem delimited_cons (mem : c ∈ delimiters) (noSlash : c ≠ '/') : Delimited cs (c :: rest) := by
  intro d next
  cases next
  exact ⟨mem, fun slash => absurd slash noSlash⟩

theorem spells_nil : Spells [] [] :=
  fun _ _ => rfl

theorem Spells.scanAll_eq (h : Spells cs ts) : scanAll cs = ts := by
  have alone := h [] fun _ next => nomatch next
  have nothing : scanAll [] = [] := scanAll_eq_nil rfl
  rwa [List.append_nil, nothing, List.append_nil] at alone

/-- Pieces that are kept apart spell their tokens one after the other. -/
theorem Spells.append (h : Spells cs ts) (h' : Spells ds us) (apart : Delimited cs ds)
    (nonempty : ds ≠ [])
    : Spells (cs ++ ds) (ts ++ us) := by
  intro rest delimited
  have next : Delimited cs (ds ++ rest) := by
    obtain ⟨d, ds, rfl⟩ := List.exists_cons_of_ne_nil nonempty
    exact apart
  rw [List.append_assoc, h _ next, h' _ (delimited.of_append cs), List.append_assoc]

theorem scan?_of_visible (visible : Unicode.isWhiteSpace c = false)
    : scan? (c :: rest) = some (scanAt c rest) := by
  rw [scan?, List.dropWhile_cons_of_neg (by simp [visible])]

theorem scanAll_cons (visible : Unicode.isWhiteSpace c = false)
    (scanned : scanAt c cs = (token, rest))
    : scanAll (c :: cs) = token :: scanAll rest :=
  scanAll_of_scan? (by rw [scan?_of_visible visible, scanned])

/-- A piece that is scanned in one go spells one token. -/
theorem spells_single (visible : Unicode.isWhiteSpace c = false)
    (scanned : ∀ rest, Delimited (c :: cs) rest → scanAt c (cs ++ rest) = (token, rest))
    : Spells (c :: cs) [token] := by
  intro rest delimited
  rw [List.cons_append, scanAll_cons visible (scanned rest delimited)]
  rfl

/-- A piece may start with a character that is a token by itself. -/
theorem Spells.cons (h : Spells cs ts) (visible : Unicode.isWhiteSpace c = false)
    (isToken : punctuation? c = some token)
    : Spells (c :: cs) (token :: ts) := by
  intro rest delimited
  have scanned : scanAt c (cs ++ rest) = (token, cs ++ rest) := by
    unfold scanAt
    rw [isToken]
  have behind : Delimited cs rest := delimited.of_append [c]
  rw [List.cons_append, scanAll_cons visible scanned, h rest behind]
  rfl

theorem spells_punctuation (visible : Unicode.isWhiteSpace c = false)
    (isToken : punctuation? c = some token)
    : Spells [c] [token] :=
  spells_nil.cons visible isToken

/-- The characters behind an equals sign do not make it another token, and those behind a less or
a greater sign do so only if they are signs of this kind themselves.
-/
theorem Spells.operator (op : BinaryOperator) (h : Spells cs ts)
    (noEqual : cs.head? ≠ some '=') (noGreater : cs.head? ≠ some '>') (nonempty : cs ≠ [])
    : Spells (op.symbol.toList ++ cs) (op.token :: ts) := by
  obtain ⟨d, cs, rfl⟩ := List.exists_cons_of_ne_nil nonempty
  have isOther : d ≠ '=' := by simpa using noEqual
  have isOther' : d ≠ '>' := by simpa using noGreater
  have longer {sign : Char} (signs : List Char) {token : Token}
      (visible : Unicode.isWhiteSpace sign = false)
      (scanned : ∀ rest, scanAt sign (signs ++ (d :: cs ++ rest)) = (token, d :: cs ++ rest))
      : Spells (sign :: (signs ++ d :: cs)) (token :: ts) := by
    intro rest delimited
    have behind : Delimited (d :: cs) rest := delimited.of_append (sign :: signs)
    rw [List.cons_append, List.append_assoc, scanAll_cons visible (scanned rest), h rest behind]
    rfl
  cases op with
  | arithmetic op => cases op <;> exact h.cons (by decide) rfl
  | concat => exact h.cons (by decide) rfl
  | comparison op =>
    cases op with
    | equal => exact h.cons (by decide) rfl
    | notEqual => exact longer ['>'] (by decide) fun rest => rfl
    | less =>
      refine longer [] (by decide) fun rest => ?_
      simp [scanAt, punctuation?, isOther, isOther']
      rfl
    | lessEqual => exact longer ['='] (by decide) fun rest => rfl
    | greater =>
      refine longer [] (by decide) fun rest => ?_
      simp [scanAt, punctuation?, isOther]
      rfl
    | greaterEqual => exact longer ['='] (by decide) fun rest => rfl

-- Literals

theorem spells_text (value : String) : Spells (enclose '"' value.toList) [text value] := by
  refine spells_single (by decide) fun rest delimited => ?_
  have closed : rest.head? ≠ some '"' := delimited.head?_ne (by decide)
  change scanText (double '"' value.toList ++ ['"'] ++ rest) = _
  rw [List.append_assoc, List.cons_append, List.nil_append, scanText,
    splitQuoted_double value.toList closed]
  simp only [String.ofList_toList]

/-- The literal of an error is read back as a whole. -/
theorem exists_of_error (e : CellError)
    : ∃ cs, e.text.toList = '#' :: cs ∧ cs.all isErrorChar
      ∧ CellError.ofText? (String.ofList ('#' :: cs)) = some e := by
  cases e <;> exact ⟨_, rfl, by decide, by decide⟩

theorem spells_error (e : CellError) : Spells e.text.toList [error e] := by
  obtain ⟨cs, written, all, read⟩ := exists_of_error e
  rw [written]
  refine spells_single (by decide) fun rest delimited => ?_
  have stops : StopsAt isErrorChar rest := by
    intro c next
    obtain ⟨delimiter, noError⟩ := delimited c next
    have noSlash : c ≠ '/' := fun slash => noError slash ⟨e, written ▸ List.suffix_rfl⟩
    have others : delimiters.all fun c => c = '/' || !isErrorChar c := by decide
    simpa [noSlash] using List.all_eq_true.mp others c delimiter
  have all := List.all_eq_true.mp all
  change scanError (cs ++ rest) = _
  simp only [scanError, takeWhile_run all stops, dropWhile_run all stops, read]

/-- What a number can start with. -/
def startsNumber (c : Char) (rest : List Char) : Bool :=
  c.isDigit || (c = '.' && rest.head?.any Char.isDigit)

/-- Signs that are tokens, or that begin tokens which are neither numbers nor words nor errors. -/
def signs : List Char :=
  ['+', '-', '*', '/', '^', '%', '&', ':', ',', ';', '(', ')', '\x7b', '\x7d', '=', '<', '>', '"',
    '\'', '[']

/-- Whatever starts with no sign is a number, an error, a word or invalid. -/
theorem scanAt_of_not_mem_signs (h : c ∉ signs)
    : scanAt c rest =
      if startsNumber c rest then scanNumber (c :: rest)
      else if c = '#' then scanError rest
      else if isIdentifierStart c then scanWord (c :: rest)
      else (invalid c.toString, rest) := by
  have other {d : Char} (mem : d ∈ signs) : c ≠ d := by
    intro same
    exact h (same ▸ mem)
  have noPunctuation : punctuation? c = none := by
    unfold punctuation?
    split
    all_goals first | rfl | exact absurd rfl (other (by decide))
  unfold scanAt
  rw [noPunctuation]
  dsimp only
  rw [if_neg (other (by decide)), if_neg (other (by decide)), if_neg (other (by decide)),
    if_neg (other (by decide)), if_neg (other (by decide))]
  rfl

theorem scanAt_of_startsNumber (h : startsNumber c rest)
    : scanAt c rest = scanNumber (c :: rest) := by
  have noSign : c ∉ signs := by
    intro mem
    have others : signs.all fun c => !c.isDigit && c ≠ '.' := by decide
    have other := List.all_eq_true.mp others c mem
    simp at other
    simp [startsNumber, other] at h
  rw [scanAt_of_not_mem_signs noSign, if_pos h]

theorem ofSheetChars_ne_number {x : Float} : ofSheetChars cs ≠ number x := by
  unfold ofSheetChars
  split <;> simp

theorem scanWord_ne_number {x : Float} : (scanWord cs).1 ≠ number x := by
  have word {word rest : List Char} : ofWord word rest ≠ number x := by
    unfold ofWord
    dsimp only
    split
    · simp
    · split
      · simp
      · split <;> simp
  unfold scanWord
  dsimp only
  split
  · simp
  · split
    · simp
    · exact word
  · exact word

/-- Only what starts like a number is scanned as one. -/
theorem startsNumber_of_scanAt {x : Float} (h : (scanAt c rest).1 = number x)
    : startsNumber c rest := by
  rcases scanAt_cases c rest with ⟨token, isToken, same⟩ | ⟨token, sign, more, _, same⟩ | same
    | same | same | ⟨starts, _⟩ | same | ⟨_, same⟩ | same
  all_goals try rw [same] at h
  · unfold punctuation? at isToken
    split at isToken <;> cases isToken <;> cases h
  · obtain rfl : token = number x := h
    simp at sign
  · unfold scanText at h
    split at h <;> cases h
  · unfold scanQuotedSheet at h
    split at h
    · exact absurd h ofSheetChars_ne_number
    · cases h
    · cases h
  · unfold scanBracketSheet at h
    dsimp only at h
    split at h
    · exact absurd h ofSheetChars_ne_number
    · cases h
  · exact starts
  · unfold scanError at h
    dsimp only at h
    split at h <;> cases h
  · exact absurd h scanWord_ne_number
  · cases h

/-- Whatever is scanned as one number is the numeral of it, but for white space in front. -/
theorem exists_of_number {x : Float} (h : scan? cs = some (number x, []))
    : ∃ c more, cs.dropWhile Unicode.isWhiteSpace = c :: more ∧ startsNumber c more
      ∧ Number.Numeral.toFloat? (c :: more) = some x := by
  unfold scan? at h
  split at h
  · cases h
  · next c more found =>
    have scanned : scanAt c more = (number x, []) := Option.some.inj h
    have starts : startsNumber c more := startsNumber_of_scanAt (congrArg Prod.fst scanned)
    refine ⟨c, more, found, starts, ?_⟩
    rw [scanAt_of_startsNumber starts] at scanned
    exact toFloat?_of_scanNumber scanned

theorem spells_number {x : Float} (h : scan? cs = some (number x, [])) : Spells cs [number x] := by
  obtain ⟨c, more, found, starts, read⟩ := exists_of_number h
  intro rest delimited
  have stops : StopsAt isNumeralChar rest := delimited.stopsAt (by decide)
  have starts' : startsNumber c (more ++ rest) := by
    unfold startsNumber at starts ⊢
    cases more with
    | nil =>
      have digit : c.isDigit := by simpa using starts
      rw [digit, Bool.true_or]
    | cons d more => exact starts
  have scanned : scan? (cs ++ rest) = some (number x, rest) := by
    rw [scan?, List.dropWhile_append, found]
    change some (scanAt c (more ++ rest)) = _
    rw [scanAt_of_startsNumber starts', ← List.cons_append, scanNumber_append read stops]
  rw [scanAll_of_scan? scanned]
  rfl

end Spreadsheet.Token
