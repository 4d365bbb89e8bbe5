import Spreadsheet.Formula.Token
import Spreadsheet.Unicode.Alphabetic

/-! Scanning: the characters of a formula cut into tokens from the left, each as long as it can
be, with white space between them dropped. Every token takes at least one character.
-/

namespace Spreadsheet.Token

/-- The tokens of one character that start no longer one. -/
def punctuation? : Char → Option Token
  | '+' => some plus
  | '-' => some minus
  | '*' => some star
  | '/' => some slash
  | '^' => some caret
  | '%' => some percent
  | '&' => some ampersand
  | ':' => some colon
  | ',' => some comma
  | ';' => some semicolon
  | '(' => some leftParen
  | ')' => some rightParen
  | '\x7b' => some leftBrace
  | '\x7d' => some rightBrace
  | '=' => some equal
  | _ => none

/-- Characters inside identifiers. -/
def isIdentifierChar (c : Char) : Bool :=
  Unicode.isAlphanumeric c || c = '_' || c = '\\' || c = '$' || c = '.'

/-- Characters that an identifier starts with. -/
def isIdentifierStart (c : Char) : Bool :=
  c.isAlpha || c = '_' || c = '\\' || c = '$'

/-- Characters of an error literal behind its number sign. -/
def isErrorChar (c : Char) : Bool :=
  c.isAlphanum || c = '!' || c = '/' || c = '?' || c = '_'

/-- Characters of sheets that start with a workbook index and have no quotes. -/
def isBracketChar (c : Char) : Bool :=
  Unicode.isAlphanumeric c || c = '_' || c = '.' || c = '[' || c = ']' || c = ':'

/-- An optional `$`, one to three letters, an optional `$` and digits. -/
def hasCellShape (cs : List Char) : Bool :=
  let cs := (Address.splitMark cs).2
  let letters := cs.takeWhile Char.isAlpha
  let digits := (Address.splitMark (cs.dropWhile Char.isAlpha)).2
  1 ≤ letters.length && letters.length ≤ 3 && !digits.isEmpty && digits.all Char.isDigit

/-- Sheets that were read as such, or the text that they could not be read from. -/
def ofSheetChars (cs : List Char) : Token :=
  match SheetRef.ofChars? cs with
  | some r => sheet r
  | none => invalid (String.ofList cs)

/-- Reads on behind the opening quote of a text. -/
def scanText (cs : List Char) : Token × List Char :=
  match Text.splitQuoted '"' cs with
  | (value, some rest) => (text (String.ofList value), rest)
  | (value, none) => (invalid (String.ofList ('"' :: value)), [])

/-- Reads on behind the opening quote of sheets. -/
def scanQuotedSheet (cs : List Char) : Token × List Char :=
  match Text.splitQuoted '\'' cs with
  | (name, some ('!' :: rest)) => (ofSheetChars name, rest)
  | (name, some rest) => (invalid (String.ofList ('\'' :: name ++ ['\''])), rest)
  | (name, none) => (invalid (String.ofList ('\'' :: name)), [])

/-- Reads on behind the opening bracket of a workbook index. -/
def scanBracketSheet (cs : List Char) : Token × List Char :=
  let name := '[' :: cs.takeWhile isBracketChar
  match cs.dropWhile isBracketChar with
  | '!' :: rest => (ofSheetChars name, rest)
  | rest => (invalid (String.ofList name), rest)

/-- Cuts a fraction off the front of a text, with its point. -/
def splitPoint : List Char → List Char × List Char
  | '.' :: cs => ('.' :: cs.takeWhile Char.isDigit, cs.dropWhile Char.isDigit)
  | cs => ([], cs)

/-- Cuts a sign off the front of a text. -/
def splitSign : List Char → List Char × List Char
  | '+' :: cs => (['+'], cs)
  | '-' :: cs => (['-'], cs)
  | cs => ([], cs)

/-- Cuts an exponent off the front of a text, even one without digits. -/
def splitExponent : List Char → List Char × List Char
  | c :: cs =>
    if c = 'e' || c = 'E' then
      let (sign, cs) := splitSign cs
      (c :: sign ++ cs.takeWhile Char.isDigit, cs.dropWhile Char.isDigit)
    else ([], c :: cs)
  | [] => ([], [])

/-- Reads what begins like a number as far as it looks like one. -/
def scanNumber (cs : List Char) : Token × List Char :=
  let whole := cs.takeWhile Char.isDigit
  let (fraction, rest) := splitPoint (cs.dropWhile Char.isDigit)
  let (exponent, rest) := splitExponent rest
  let numeral := whole ++ fraction ++ exponent
  match Number.Numeral.toFloat? numeral with
  | some value => (number value, rest)
  | none => (invalid (String.ofList numeral), rest)

/-- Reads on behind the number sign of an error literal. -/
def scanError (cs : List Char) : Token × List Char :=
  let literal := String.ofList ('#' :: cs.takeWhile isErrorChar)
  let rest := cs.dropWhile isErrorChar
  match CellError.ofText? literal with
  | some e => (error e, rest)
  | none => (invalid literal, rest)

/-- The last sheet of a three-dimensional reference, read on behind its colon. -/
def lastSheet? (cs : List Char) : Option (String × List Char) :=
  let name := cs.takeWhile isIdentifierChar
  match cs.dropWhile isIdentifierChar with
  | '!' :: rest => if name.isEmpty then none else some (String.ofList name, rest)
  | _ => none

/-- What a word that is no part of a sheet stands for; in front of a parenthesis, a function. -/
def ofWord (word : List Char) (rest : List Char) : Token :=
  let name := String.ofList word
  if rest.head? = some '(' then identifier name
  else match Text.boolean? name with
    | some value => boolean value
    | none => if hasCellShape word then cell name else identifier name

/-- Reads a word: sheets if an exclamation mark follows, also after a colon and another word. -/
def scanWord (cs : List Char) : Token × List Char :=
  let word := cs.takeWhile isIdentifierChar
  let rest := cs.dropWhile isIdentifierChar
  let plain := (ofWord word rest, rest)
  match rest with
  | '!' :: rest => (sheet { first := String.ofList word }, rest)
  | ':' :: after =>
    match lastSheet? after with
    | some (last, rest) => (sheet { first := String.ofList word, last := some last }, rest)
    | none => plain
  | _ => plain

/-- Reads a token whose first character is not white space. -/
def scanAt (c : Char) (rest : List Char) : Token × List Char :=
  match punctuation? c with
  | some token => (token, rest)
  | none =>
    if c = '<' then
      match rest with
      | '=' :: rest => (lessEqual, rest)
      | '>' :: rest => (notEqual, rest)
      | _ => (less, rest)
    else if c = '>' then
      match rest with
      | '=' :: rest => (greaterEqual, rest)
      | _ => (greater, rest)
    else if c = '"' then scanText rest
    else if c = '\'' then scanQuotedSheet rest
    else if c = '[' then scanBracketSheet rest
    else if c.isDigit || (c = '.' && rest.head?.any Char.isDigit) then scanNumber (c :: rest)
    else if c = '#' then scanError rest
    else if isIdentifierStart c then scanWord (c :: rest)
    else (invalid c.toString, rest)

/-- The first token of a text and what follows it; there is none in white space. -/
def scan? (cs : List Char) : Option (Token × List Char) :=
  match cs.dropWhile Unicode.isWhiteSpace with
  | [] => none
  | c :: rest => some (scanAt c rest)

/-! Each scanner leaves no more than it was given. -/

theorem length_dropWhile_le (p : Char → Bool) (cs : List Char)
    : (cs.dropWhile p).length ≤ cs.length :=
  (List.dropWhile_sublist p).length_le

theorem length_scanText_le (cs : List Char) : (scanText cs).2.length ≤ cs.length := by
  unfold scanText
  split
  · next h => exact Nat.le_of_lt (Text.length_lt_of_splitQuoted (by rw [h]))
  · simp

theorem length_scanQuotedSheet_le (cs : List Char)
    : (scanQuotedSheet cs).2.length ≤ cs.length := by
  unfold scanQuotedSheet
  split
  · next h =>
    have := Text.length_lt_of_splitQuoted (congrArg Prod.snd h)
    simp at this ⊢
    omega
  · next h => exact Nat.le_of_lt (Text.length_lt_of_splitQuoted (by rw [h]))
  · simp

theorem length_scanBracketSheet_le (cs : List Char)
    : (scanBracketSheet cs).2.length ≤ cs.length := by
  have := length_dropWhile_le isBracketChar cs
  unfold scanBracketSheet
  dsimp only
  split
  · next h =>
    rw [h] at this
    simp at this ⊢
    omega
  · exact this

theorem length_splitPoint_le (cs : List Char) : (splitPoint cs).2.length ≤ cs.length := by
  unfold splitPoint
  split
  · exact Nat.le_succ_of_le (length_dropWhile_le _ _)
  · simp

theorem length_splitSign_le (cs : List Char) : (splitSign cs).2.length ≤ cs.length := by
  unfold splitSign
  split <;> simp

theorem length_splitExponent_le (cs : List Char)
    : (splitExponent cs).2.length ≤ cs.length := by
  unfold splitExponent
  split
  · split
    · next c cs _ =>
      have := length_splitSign_le cs
      have := length_dropWhile_le Char.isDigit (splitSign cs).2
      simp
      omega
    · simp
  · simp

/-- A number takes at least its first digit, or its point. -/
theorem length_scanNumber_lt {c : Char} {rest : List Char}
    (h : c.isDigit ∨ c = '.')
    : (scanNumber (c :: rest)).2.length < (c :: rest).length := by
  have rests : (splitPoint ((c :: rest).dropWhile Char.isDigit)).2.length ≤ rest.length := by
    by_cases digit : c.isDigit
    · rw [List.dropWhile_cons_of_pos digit]
      exact Nat.le_trans (length_splitPoint_le _) (length_dropWhile_le _ _)
    · obtain rfl : c = '.' := h.resolve_left digit
      rw [List.dropWhile_cons_of_neg digit]
      exact length_dropWhile_le _ _
  have := length_splitExponent_le (splitPoint ((c :: rest).dropWhile Char.isDigit)).2
  have rest_eq : (scanNumber (c :: rest)).2
      = (splitExponent (splitPoint ((c :: rest).dropWhile Char.isDigit)).2).2 := by
    unfold scanNumber
    dsimp only
    split <;> rfl
  rw [rest_eq]
  simp
  omega

theorem length_scanError_le (cs : List Char) : (scanError cs).2.length ≤ cs.length := by
  unfold scanError
  dsimp only
  split <;> exact length_dropWhile_le _ _

theorem length_lt_of_lastSheet? {cs rest : List Char} {name : String}
    (h : lastSheet? cs = some (name, rest))
    : rest.length < cs.length := by
  have := length_dropWhile_le isIdentifierChar cs
  unfold lastSheet? at h
  dsimp only at h
  split at h
  · next found =>
    split at h
    · cases h
    · cases h
      rw [found] at this
      exact Nat.lt_of_succ_le this
  · cases h

/-- A word takes at least its first character. -/
theorem length_scanWord_lt {c : Char} {rest : List Char} (h : isIdentifierChar c)
    : (scanWord (c :: rest)).2.length < (c :: rest).length := by
  have dropped := length_dropWhile_le isIdentifierChar rest
  unfold scanWord
  dsimp only
  rw [List.dropWhile_cons_of_pos h]
  split
  · next found =>
    rw [found] at dropped
    simp at dropped ⊢
    omega
  · next found =>
    rw [found] at dropped
    split
    · next last =>
      have := length_lt_of_lastSheet? last
      simp at dropped ⊢
      omega
    · rw [found]
      exact Nat.lt_succ_of_le dropped
  · simpa using Nat.lt_succ_of_le dropped

/-- The characters that start an identifier can also stand inside one. -/
theorem isIdentifierChar_of_start {c : Char} (h : isIdentifierStart c) : isIdentifierChar c := by
  simp only [isIdentifierStart, Bool.or_eq_true, decide_eq_true_eq] at h
  simp only [isIdentifierChar, Unicode.isAlphanumeric, Bool.or_eq_true, decide_eq_true_eq]
  rcases h with ((h | h) | h) | h
  · simp [Unicode.isAlphabetic_of_isAlpha h]
  all_goals simp [h]

/-- The first character tells which scanner takes over. -/
theorem scanAt_cases (c : Char) (rest : List Char)
    : (∃ token, punctuation? c = some token ∧ scanAt c rest = (token, rest))
      ∨ (∃ token ∈ [less, lessEqual, notEqual, greater, greaterEqual],
          ∃ more, more.length ≤ rest.length ∧ scanAt c rest = (token, more))
      ∨ scanAt c rest = scanText rest
      ∨ scanAt c rest = scanQuotedSheet rest
      ∨ scanAt c rest = scanBracketSheet rest
      ∨ ((c.isDigit || (c = '.' && rest.head?.any Char.isDigit))
          ∧ scanAt c rest = scanNumber (c :: rest))
      ∨ scanAt c rest = scanError rest
      ∨ (isIdentifierStart c ∧ scanAt c rest = scanWord (c :: rest))
      ∨ scanAt c rest = (invalid c.toString, rest) := by
  unfold scanAt
  split
  · next token isToken => exact .inl ⟨token, isToken, rfl⟩
  refine .inr ?_
  split
  · refine .inl ?_
    split
    · exact ⟨_, by simp, _, Nat.le_succ _, rfl⟩
    · exact ⟨_, by simp, _, Nat.le_succ _, rfl⟩
    · exact ⟨_, by simp, _, Nat.le_refl _, rfl⟩
  split
  · refine .inl ?_
    split
    · exact ⟨_, by simp, _, Nat.le_succ _, rfl⟩
    · exact ⟨_, by simp, _, Nat.le_refl _, rfl⟩
  refine .inr ?_
  split
  · exact .inl rfl
  refine .inr ?_
  split
  · exact .inl rfl
  refine .inr ?_
  split
  · exact .inl rfl
  refine .inr ?_
  split
  · next starts => exact .inl ⟨starts, rfl⟩
  refine .inr ?_
  split
  · exact .inl rfl
  refine .inr ?_
  split
  · next start => exact .inl ⟨start, rfl⟩
  · exact .inr rfl

theorem length_scanAt_le (c : Char) (rest : List Char)
    : (scanAt c rest).2.length ≤ rest.length := by
  rcases scanAt_cases c rest with ⟨token, _, same⟩ | ⟨token, _, more, shorter, same⟩ | same | same
    | same | ⟨starts, same⟩ | same | ⟨start, same⟩ | same
  · simp [same]
  · simpa only [same] using shorter
  · simpa only [same] using length_scanText_le rest
  · simpa only [same] using length_scanQuotedSheet_le rest
  · simpa only [same] using length_scanBracketSheet_le rest
  · simp at starts
    have taken : (scanNumber (c :: rest)).2.length < (c :: rest).length :=
      length_scanNumber_lt (starts.imp id And.left)
    simpa only [same] using Nat.le_of_lt_succ taken
  · simpa only [same] using length_scanError_le rest
  · have taken : (scanWord (c :: rest)).2.length < (c :: rest).length :=
      length_scanWord_lt (isIdentifierChar_of_start start)
    simpa only [same] using Nat.le_of_lt_succ taken
  · simp [same]

/-- Every token takes at least one character. -/
theorem length_lt_of_scan? {cs rest : List Char} {token : Token}
    (h : scan? cs = some (token, rest))
    : rest.length < cs.length := by
  have dropped := length_dropWhile_le Unicode.isWhiteSpace cs
  unfold scan? at h
  split at h
  · cases h
  · next c after found =>
    rw [found] at dropped
    have := length_scanAt_le c after
    rw [Option.some.inj h] at this
    exact Nat.lt_of_lt_of_le (Nat.lt_succ_of_le this) dropped

/-- The tokens of a text. -/
def scanAll (cs : List Char) : List Token :=
  match _h : scan? cs with
  | some (token, rest) => token :: scanAll rest
  | none => []
termination_by cs.length
decreasing_by exact length_lt_of_scan? _h

end Spreadsheet.Token
