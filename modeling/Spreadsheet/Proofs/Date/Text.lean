import Spreadsheet.Date.Text
import Spreadsheet.Proofs.Number.Numeral
import Spreadsheet.Proofs.Unicode.WhiteSpace

/-! Dates written as text: every layout with four digits of the year is read as the date that it
spells, one without a year as a date of the current year, and none of them reads as a number.
-/

namespace Spreadsheet

open Number.Numeral (digitsValue)
open Text (pieces)

namespace DateText

-- How dates are written

/-- The digits of a number, behind zeros or not. -/
def SpellsNumber (cs : List Char) (n : Nat) : Prop :=
  ∃ zeros, cs = List.replicate zeros '0' ++ Nat.toDigits 10 n

/-- A year in four digits. -/
structure SpellsYear (cs : List Char) (year : Nat) : Prop where
  number : SpellsNumber cs year
  long : cs.length = 4

/-- A day in one digit or two. -/
structure SpellsDay (cs : List Char) (day : Nat) : Prop where
  number : SpellsNumber cs day
  short : cs.length ≤ 2

/-- A month in one digit or two, or its name or the first three letters of the name in any case. -/
inductive SpellsMonth : List Char → Nat → Prop
  | digits {cs : List Char} {month : Nat} (day : SpellsDay cs month) : SpellsMonth cs month
  | name {cs : List Char} {before : Nat} {name : String} (named : monthNames[before]? = some name)
    (letters : cs.map Char.toLower = name.toList)
    : SpellsMonth cs (before + 1)
  | abbreviation {cs : List Char} {before : Nat} {name : String}
    (named : monthNames[before]? = some name)
    (letters : cs.map Char.toLower = name.toList.take 3)
    : SpellsMonth cs (before + 1)

/-- A date whose parts are spelled in the order year, month, day with hyphens or slashes, or day,
month, year with hyphens, or month, day, year with slashes.
-/
inductive Spells : List Char → Nat → Nat → Nat → Prop
  | yearFirst {ys ms ds : List Char} {year month day : Nat} (separator : Char)
    (separates : separator = '-' ∨ separator = '/') (y : SpellsYear ys year)
    (m : SpellsMonth ms month) (d : SpellsDay ds day)
    : Spells (ys ++ separator :: (ms ++ separator :: ds)) year month day
  | dayFirst {ys ms ds : List Char} {year month day : Nat} (d : SpellsDay ds day)
    (m : SpellsMonth ms month) (y : SpellsYear ys year)
    : Spells (ds ++ '-' :: (ms ++ '-' :: ys)) year month day
  | monthFirst {ys ms ds : List Char} {year month day : Nat} (m : SpellsMonth ms month)
    (d : SpellsDay ds day) (y : SpellsYear ys year)
    : Spells (ms ++ '/' :: (ds ++ '/' :: ys)) year month day

/-- A month and a day without a year, with a hyphen or a slash between them. -/
inductive SpellsMonthDay : List Char → Nat → Nat → Prop
  | separated (ms ds : List Char) {month day : Nat} (separator : Char)
    (separates : separator = '-' ∨ separator = '/') (m : SpellsMonth ms month)
    (d : SpellsDay ds day)
    : SpellsMonthDay (ms ++ separator :: ds) month day

-- The parts of a date

variable {cs : List Char} {n year month day : Nat}

theorem SpellsNumber.isDigit (h : SpellsNumber cs n) : ∀ c ∈ cs, c.isDigit := by
  obtain ⟨zeros, rfl⟩ := h
  intro c mem
  rcases List.mem_append.mp mem with zero | digit
  · rw [List.eq_of_mem_replicate zero]
    rfl
  · exact Number.Numeral.isDigit_of_mem_toDigits digit

theorem SpellsNumber.ne_nil (h : SpellsNumber cs n) : cs ≠ [] := by
  obtain ⟨zeros, rfl⟩ := h
  exact List.append_ne_nil_of_right_ne_nil _ Nat.toDigits_ne_nil

/-- Zeros in front do not matter. -/
theorem SpellsNumber.digitsValue_eq (h : SpellsNumber cs n) : digitsValue cs = n := by
  obtain ⟨zeros, rfl⟩ := h
  rw [digitsValue, List.foldl_append]
  have zero : (List.replicate zeros '0').foldl
      (fun value c => 10 * value + (c.toNat - '0'.toNat)) 0 = 0 := by
    induction zeros with
    | zero => rfl
    | succ zeros ih => exact ih
  rw [zero]
  exact Number.Numeral.digitsValue_toDigits n

theorem SpellsYear.isYear (h : SpellsYear cs year) : isYear cs := by
  rw [DateText.isYear, h.long, List.all_eq_true.mpr h.number.isDigit]
  rfl

theorem SpellsYear.le (h : SpellsYear cs year) : year ≤ 9999 := by
  obtain ⟨⟨zeros, rfl⟩, long⟩ := h
  have short : (Nat.toDigits 10 year).length ≤ 4 := by
    rw [List.length_append] at long
    omega
  have := (Nat.length_toDigits_le_iff (by decide) (by decide)).mp short
  omega

theorem SpellsDay.isDay (h : SpellsDay cs day) : isDay cs := by
  have : 0 < cs.length := List.length_pos_iff.mpr h.number.ne_nil
  have length : cs.length = 1 ∨ cs.length = 2 := by
    have := h.short
    omega
  rw [DateText.isDay, List.all_eq_true.mpr h.number.isDigit]
  simpa using length

theorem SpellsDay.not_isYear (h : SpellsDay cs day) : isYear cs = false := by
  have other : cs.length ≠ 4 := by
    have := h.short
    omega
  simp [DateText.isYear, other]

theorem not_isAlpha_of_isDigit {c : Char} (digit : c.isDigit) : c.isAlpha = false := by
  have digits : ∀ n < 0x80, (Char.ofNat n).isDigit → (Char.ofNat n).isAlpha = false := by decide
  exact Unicode.forall_digit (P := fun c => c.isAlpha = false) digits digit

theorem SpellsYear.not_isMonth (h : SpellsYear cs year) : isMonth cs = false := by
  obtain ⟨c, rest, rfl⟩ := List.exists_cons_of_ne_nil h.number.ne_nil
  have noLetter := not_isAlpha_of_isDigit (h.number.isDigit c List.mem_cons_self)
  have long : rest.length = 3 := by simpa using h.long
  simp [DateText.isMonth, DateText.isDay, noLetter, long]

-- The names of months

theorem isAlpha_of_toLower {c : Char} (letter : c.toLower.isAlpha) : c.isAlpha := by
  unfold Char.toLower at letter
  split at letter
  · next upper =>
    have isUpper : c.isUpper := decide_eq_true upper
    exact Bool.or_eq_true_iff.mpr (.inl isUpper)
  · exact letter

/-- What is looked for among the names of months: a name, or its first three letters. -/
def names (letters : List Char) (name : String) : Bool :=
  name.toList == letters || (letters.length == 3 && letters.isPrefixOf name.toList)

/-- No two names of months have the same first three letters. -/
theorem findIdx?_monthNames {before : Nat} {name : String} (named : monthNames[before]? = some name)
    : name.toList.all Char.isAlpha ∧ 3 ≤ name.toList.length
      ∧ monthNames.findIdx? (names name.toList) = some before
      ∧ monthNames.findIdx? (names (name.toList.take 3)) = some before := by
  have all : ∀ before < 12, ∀ name ∈ monthNames[before]?,
      name.toList.all Char.isAlpha ∧ 3 ≤ name.toList.length
        ∧ monthNames.findIdx? (names name.toList) = some before
        ∧ monthNames.findIdx? (names (name.toList.take 3)) = some before := by
    decide
  exact all before (List.getElem?_eq_some_iff.mp named).1 name named

/-- Letters that lead to the number of a month in any case. -/
structure NamesMonth (cs : List Char) (month : Nat) : Prop where
  nonempty : cs ≠ []
  isAlpha : ∀ c ∈ cs, c.isAlpha
  found : ∃ before, month = before + 1
    ∧ monthNames.findIdx? (names (cs.map Char.toLower)) = some before

theorem namesMonth_of_letters {letters : List Char} {before : Nat} (nonempty : letters ≠ [])
    (isAlpha : letters.all Char.isAlpha)
    (found : monthNames.findIdx? (names letters) = some before)
    (same : cs.map Char.toLower = letters)
    : NamesMonth cs (before + 1) := by
  subst same
  refine ⟨fun empty => nonempty (by rw [empty]; rfl), fun c mem => ?_, before, rfl, found⟩
  exact isAlpha_of_toLower (List.all_eq_true.mp isAlpha _ (List.mem_map_of_mem mem))

/-- A month is spelled in digits or in letters. -/
theorem SpellsMonth.day_or_name (h : SpellsMonth cs month)
    : SpellsDay cs month ∨ NamesMonth cs month := by
  cases h with
  | digits day => exact .inl day
  | name named letters =>
    obtain ⟨isAlpha, long, found, _⟩ := findIdx?_monthNames named
    exact .inr (namesMonth_of_letters (List.ne_nil_of_length_pos (by omega)) isAlpha found letters)
  | abbreviation named letters =>
    obtain ⟨isAlpha, long, _, found⟩ := findIdx?_monthNames named
    refine .inr (namesMonth_of_letters (List.ne_nil_of_length_pos ?_) ?_ found letters)
    · rw [List.length_take]
      omega
    · rw [List.all_eq_true] at isAlpha ⊢
      exact fun c mem => isAlpha c (List.mem_of_mem_take mem)

theorem SpellsMonth.isMonth (h : SpellsMonth cs month) : isMonth cs := by
  rcases h.day_or_name with day | letters
  · rw [DateText.isMonth, day.isDay, Bool.or_true]
  · rw [DateText.isMonth, List.all_eq_true.mpr letters.isAlpha,
      List.isEmpty_eq_false_iff.mpr letters.nonempty]
    rfl

theorem SpellsMonth.month?_eq (h : SpellsMonth cs month) : month? cs = some (month : Int) := by
  rcases h.day_or_name with day | letters
  · rw [month?, if_pos (List.all_eq_true.mpr day.number.isDigit), day.number.digitsValue_eq]
  · obtain ⟨before, rfl, found⟩ := letters.found
    obtain ⟨c, rest, rfl⟩ := List.exists_cons_of_ne_nil letters.nonempty
    have letter := letters.isAlpha c List.mem_cons_self
    have noDigits : ¬ (c :: rest).all Char.isDigit := by
      intro all
      rw [not_isAlpha_of_isDigit (List.all_eq_true.mp all c List.mem_cons_self)] at letter
      cases letter
    unfold names at found
    rw [month?, if_neg noDigits]
    simp only [found]
    rfl

-- The pieces of a date

/-- A piece of a date is all digits or all letters. -/
def IsPiece (cs : List Char) : Prop :=
  cs ≠ [] ∧ ((∀ c ∈ cs, c.isDigit) ∨ ∀ c ∈ cs, c.isAlpha)

theorem SpellsNumber.isPiece (h : SpellsNumber cs n) : IsPiece cs :=
  ⟨h.ne_nil, .inl h.isDigit⟩

theorem SpellsMonth.isPiece (h : SpellsMonth cs month) : IsPiece cs := by
  rcases h.day_or_name with day | letters
  · exact day.number.isPiece
  · exact ⟨letters.nonempty, .inr letters.isAlpha⟩

theorem IsPiece.isAlphanum (piece : IsPiece cs) : ∀ c ∈ cs, c.isAlphanum := by
  intro c mem
  rcases piece.2 with digits | letters
  · exact Bool.or_eq_true_iff.mpr (.inr (digits c mem))
  · exact Bool.or_eq_true_iff.mpr (.inl (letters c mem))

theorem IsPiece.not_mem {separator : Char} (piece : IsPiece cs)
    (other : separator.isAlphanum = false)
    : separator ∉ cs := by
  intro mem
  rw [piece.isAlphanum separator mem] at other
  cases other

theorem pieces_three {separator : Char} {a b c : List Char} (other : separator.isAlphanum = false)
    (pa : IsPiece a) (pb : IsPiece b) (pc : IsPiece c)
    : pieces separator (a ++ separator :: (b ++ separator :: c)) = [a, b, c] := by
  rw [Text.pieces_append _ (pa.not_mem other), Text.pieces_append _ (pb.not_mem other),
    Text.pieces_of_not_mem (pc.not_mem other)]

theorem pieces_two {separator : Char} {a b : List Char} (other : separator.isAlphanum = false)
    (pa : IsPiece a) (pb : IsPiece b)
    : pieces separator (a ++ separator :: b) = [a, b] := by
  rw [Text.pieces_append _ (pa.not_mem other), Text.pieces_of_not_mem (pb.not_mem other)]

/-- A text with slashes has no hyphens. -/
theorem pieces_hyphen_of_slashes {a b c : List Char} (pa : IsPiece a) (pb : IsPiece b)
    (pc : IsPiece c)
    : pieces '-' (a ++ '/' :: (b ++ '/' :: c)) = [a ++ '/' :: (b ++ '/' :: c)] := by
  have other : '-'.isAlphanum = false := by decide
  refine Text.pieces_of_not_mem ?_
  simp [pa.not_mem other, pb.not_mem other, pc.not_mem other]

/-- The pieces of each layout are told apart. -/
theorem split?_of_spells {written : List Char} (spells : Spells written year month day)
    : ∃ ys ms ds, split? written = some (some ys, ms, ds) ∧ SpellsYear ys year
      ∧ SpellsMonth ms month ∧ SpellsDay ds day := by
  cases spells with
  | yearFirst separator separates y m d =>
    refine ⟨_, _, _, ?_, y, m, d⟩
    rcases separates with rfl | rfl
    · unfold split?
      rw [pieces_three rfl y.number.isPiece m.isPiece d.number.isPiece]
      simp only [y.isYear, m.isMonth, d.isDay, Bool.and_self, if_true]
    · unfold split?
      rw [pieces_three rfl y.number.isPiece m.isPiece d.number.isPiece,
        pieces_hyphen_of_slashes y.number.isPiece m.isPiece d.number.isPiece]
      simp only [y.not_isMonth, y.isYear, m.isMonth, d.isDay, Bool.and_self, if_true,
        Bool.false_and, Bool.false_eq_true, if_false]
  | dayFirst d m y =>
    refine ⟨_, _, _, ?_, y, m, d⟩
    unfold split?
    rw [pieces_three rfl d.number.isPiece m.isPiece y.number.isPiece]
    simp only [d.not_isYear, y.isYear, m.isMonth, d.isDay, Bool.and_self, if_true,
      Bool.false_and, Bool.false_eq_true, if_false]
  | monthFirst m d y =>
    refine ⟨_, _, _, ?_, y, m, d⟩
    unfold split?
    rw [pieces_three rfl m.isPiece d.number.isPiece y.number.isPiece,
      pieces_hyphen_of_slashes m.isPiece d.number.isPiece y.number.isPiece]
    simp only [y.isYear, m.isMonth, d.isDay, Bool.and_self, if_true]

/-- A month and a day leave no piece for the year. -/
theorem split?_of_spellsMonthDay {written : List Char} (spells : SpellsMonthDay written month day)
    : ∃ ms ds, split? written = some (none, ms, ds) ∧ SpellsMonth ms month
      ∧ SpellsDay ds day := by
  obtain ⟨ms, ds, separator, separates, m, d⟩ := spells
  refine ⟨ms, ds, ?_, m, d⟩
  rcases separates with rfl | rfl
  · unfold split?
    rw [pieces_two rfl m.isPiece d.number.isPiece]
    simp only [m.isMonth, d.isDay, Bool.and_self, if_true]
  · have other : '-'.isAlphanum = false := by decide
    have noHyphen : '-' ∉ ms ++ '/' :: ds := by
      simp [m.isPiece.not_mem other, d.number.isPiece.not_mem other]
    unfold split?
    rw [pieces_two rfl m.isPiece d.number.isPiece, Text.pieces_of_not_mem noHyphen]
    simp only [m.isMonth, d.isDay, Bool.and_self, if_true]

-- Dates among other text

theorem IsPiece.not_isWhiteSpace (piece : IsPiece cs)
    : ∀ c ∈ cs, Unicode.isWhiteSpace c = false := by
  intro c mem
  refine Unicode.not_isWhiteSpace_of_isAlphanumeric ?_
  rcases piece.2 with digits | letters
  · exact Unicode.isAlphanumeric_of_isDigit (digits c mem)
  · exact Unicode.isAlphanumeric_of_isAlpha (letters c mem)

theorem Spells.year_le {written : List Char} (spells : Spells written year month day)
    : year ≤ 9999 := by
  cases spells with
  | yearFirst _ _ y _ _ => exact y.le
  | dayFirst _ _ y => exact y.le
  | monthFirst _ _ y => exact y.le

/-- The text is a word that starts with a piece and a separator, as all dates do. -/
inductive IsWord : List Char → Prop
  | starts (first rest : List Char) (separator : Char)
    (separates : separator = '-' ∨ separator = '/') (piece : IsPiece first)
    (visible : ∀ c ∈ rest, Unicode.isWhiteSpace c = false)
    : IsWord (first ++ separator :: rest)

namespace IsWord

variable {a b c : List Char} {separator : Char}

theorem not_isWhiteSpace {written : List Char} (word : IsWord written)
    : ∀ c ∈ written, Unicode.isWhiteSpace c = false := by
  obtain ⟨first, rest, separator, separates, piece, visible⟩ := word
  simp only [List.mem_append, List.mem_cons]
  rintro c (mem | rfl | mem)
  · exact piece.not_isWhiteSpace c mem
  · rcases separates with rfl | rfl <;> decide
  · exact visible c mem

theorem ne_nil {written : List Char} (word : IsWord written) : written ≠ [] := by
  obtain ⟨first, rest, separator, _⟩ := word
  simp

theorem two_pieces (separates : separator = '-' ∨ separator = '/') (pa : IsPiece a)
    (pb : IsPiece b)
    : IsWord (a ++ separator :: b) :=
  .starts a b separator separates pa pb.not_isWhiteSpace

theorem three_pieces (separates : separator = '-' ∨ separator = '/') (pa : IsPiece a)
    (pb : IsPiece b) (pc : IsPiece c)
    : IsWord (a ++ separator :: (b ++ separator :: c)) :=
  .starts a _ separator separates pa (two_pieces separates pb pc).not_isWhiteSpace

end IsWord

/-- A date consists of three pieces between two separators. -/
theorem Spells.isWord {written : List Char} (spells : Spells written year month day)
    : IsWord written := by
  cases spells with
  | yearFirst separator separates y m d =>
    exact .three_pieces separates y.number.isPiece m.isPiece d.number.isPiece
  | dayFirst d m y => exact .three_pieces (.inl rfl) d.number.isPiece m.isPiece y.number.isPiece
  | monthFirst m d y => exact .three_pieces (.inr rfl) m.isPiece d.number.isPiece y.number.isPiece

theorem SpellsMonthDay.isWord {written : List Char} (spells : SpellsMonthDay written month day)
    : IsWord written := by
  obtain ⟨ms, ds, separator, separates, m, d⟩ := spells
  exact .two_pieces separates m.isPiece d.number.isPiece

/-- No numeral starts with a letter, or goes on with a hyphen or a slash behind its first digits. -/
theorem ofChars?_of_piece {separator : Char} (piece : IsPiece cs)
    (separates : separator = '-' ∨ separator = '/') (rest : List Char)
    : Number.Numeral.ofChars? (cs ++ separator :: rest) = none := by
  unfold Number.Numeral.ofChars? Number.Numeral.splitDigits
  rcases piece.2 with digits | letters
  · have stops : Text.StopsAt Char.isDigit (separator :: rest) := by
      rcases separates with rfl | rfl <;> exact Text.stopsAt_cons rfl
    have fraction : Number.Numeral.splitFraction (separator :: rest) = ([], separator :: rest) := by
      rcases separates with rfl | rfl <;> rfl
    have exponent : Number.Numeral.exponent? (separator :: rest) = none := by
      rcases separates with rfl | rfl <;> rfl
    rw [Text.takeWhile_run digits stops, Text.dropWhile_run digits stops]
    simp only [fraction, exponent]
    split <;> rfl
  · obtain ⟨c, letters', rfl⟩ := List.exists_cons_of_ne_nil piece.1
    have letter := letters c List.mem_cons_self
    have noDigit : ¬ c.isDigit := by
      intro digit
      rw [not_isAlpha_of_isDigit digit] at letter
      cases letter
    have noPoint : c ≠ '.' := by
      rintro rfl
      cases letter
    have fraction : Number.Numeral.splitFraction (c :: (letters' ++ separator :: rest))
        = ([], c :: (letters' ++ separator :: rest)) := by
      simp [Number.Numeral.splitFraction, noPoint]
    rw [List.cons_append, List.takeWhile_cons_of_neg noDigit, List.dropWhile_cons_of_neg noDigit]
    simp only [fraction]
    rfl

theorem parse?_of_piece {text : String} {separator : Char} {rest : List Char} (piece : IsPiece cs)
    (separates : separator = '-' ∨ separator = '/')
    (trimmed : Unicode.trim text.toList = cs ++ separator :: rest)
    : Number.parse? text = none := by
  have noFloat : Number.Numeral.toFloat? (cs ++ separator :: rest) = none := by
    rw [Number.Numeral.toFloat?, ofChars?_of_piece piece separates]
    rfl
  obtain ⟨c, cs, rfl⟩ := List.exists_cons_of_ne_nil piece.1
  have noSign : c.isAlphanum := piece.isAlphanum c List.mem_cons_self
  unfold Number.parse?
  rw [trimmed]
  split
  · next sign =>
    injection sign with sign
    rw [sign] at noSign
    cases noSign
  · next sign =>
    injection sign with sign
    rw [sign] at noSign
    cases noSign
  · exact noFloat

section

variable {before written after : List Char} (blank : ∀ c ∈ before, Unicode.isWhiteSpace c)

include blank

/-- No date is a number. -/
theorem parse?_of_isWord (word : IsWord written) (after : List Char)
    : Number.parse? (String.ofList (before ++ (written ++ after))) = none := by
  obtain ⟨tail, trimmed⟩ := Unicode.trim_append_word blank word.not_isWhiteSpace word.ne_nil after
  obtain ⟨first, rest, separator, separates, piece, _⟩ := word
  have starts
      : Unicode.trim (String.ofList (before ++ (first ++ separator :: rest ++ after))).toList
        = first ++ separator :: (rest ++ tail) := by
    rw [String.toList_ofList, trimmed, List.append_assoc, List.cons_append]
  exact parse?_of_piece piece separates starts

/-- The first word is read by its pieces. -/
theorem date?_of_split {ys? : Option (List Char)} {ms ds : List Char} (word : IsWord written)
    (split : split? written = some (ys?, ms, ds)) (m : SpellsMonth ms month)
    (d : SpellsDay ds day) (stops : Text.StopsAt (!Unicode.isWhiteSpace ·) after)
    (currentYear : Int)
    : date? (String.ofList (before ++ (written ++ after))) currentYear
      = some ⟨ys?.elim currentYear fun ys => digitsValue ys, month, day⟩ := by
  unfold date?
  rw [String.toList_ofList,
    Unicode.firstWord_append blank word.not_isWhiteSpace word.ne_nil stops, split]
  simp only [Option.bind_eq_bind, Option.bind_some, m.month?_eq, d.number.digitsValue_eq]
  cases ys? <;> rfl

/-- The date is read if white space or nothing surrounds it. -/
theorem date?_of_spells (spells : Spells written year month day)
    (stops : Text.StopsAt (!Unicode.isWhiteSpace ·) after) (currentYear : Int)
    : date? (String.ofList (before ++ (written ++ after))) currentYear
      = some ⟨year, month, day⟩ := by
  obtain ⟨ys, ms, ds, split, y, m, d⟩ := split?_of_spells spells
  rw [date?_of_split blank spells.isWord split m d stops, Option.elim_some,
    y.number.digitsValue_eq]

/-- A month and a day are read as a date of the current year. -/
theorem date?_of_spellsMonthDay (spells : SpellsMonthDay written month day)
    (stops : Text.StopsAt (!Unicode.isWhiteSpace ·) after) (currentYear : Int)
    : date? (String.ofList (before ++ (written ++ after))) currentYear
      = some ⟨currentYear, month, day⟩ := by
  obtain ⟨ms, ds, split, m, d⟩ := split?_of_spellsMonthDay spells
  exact date?_of_split blank spells.isWord split m d stops currentYear

end

example : date? "MAR/4 noon" 2024 = some ⟨2024, 3, 4⟩ := by
  with_unfolding_all rfl

end DateText

end Spreadsheet
