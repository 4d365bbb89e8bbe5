import Spreadsheet.Formula.Scan
import Spreadsheet.Proofs.Number.Sign

/-! What the scanner makes sure of: numbers are finite and have no sign, sheets can be told apart
in the text that names them, and a word in no call is neither a truth value nor of the shape of an
address.
-/

namespace Spreadsheet

/-- A reference can name these sheets: it can be told where the first name ends. -/
structure SheetRef.Proper (r : SheetRef) : Prop where
  book : ∀ index ∈ r.book, index < 0x100000000
  first : r.first ≠ ""
  last : r.last ≠ some ""
  noColon : ':' ∉ r.first.toList
  noBracket : r.book = none → r.first.toList.head? ≠ some '['

namespace Token

/-- An identifier. -/
structure IsWord (name : String) : Prop where
  start : ∃ c ∈ name.toList.head?, isIdentifierStart c
  chars : ∀ c ∈ name.toList, isIdentifierChar c

/-- An identifier that is neither a truth value nor of the shape of an address. -/
structure IsName (name : String) : Prop extends IsWord name where
  noBoolean : Text.boolean? name = none
  noCell : hasCellShape name.toList = false

/-- What the scanner makes sure of, given the token behind. -/
def Proper (next : Option Token) : Token → Prop
  | number value => Number.IsLiteral value
  | identifier name => IsWord name ∧ (next ≠ some leftParen → IsName name)
  | sheet r => r.Proper
  | _ => True

/-- What the scanner makes sure of all along. -/
def AllProper : List Token → Prop
  | [] => True
  | token :: rest => token.Proper rest.head? ∧ AllProper rest

end Token

-- Sheets

theorem Text.cutAt_fst {separator : Char} (cs : List Char)
    : separator ∉ (cutAt separator cs).1 := by
  induction cs with
  | nil => simp [cutAt]
  | cons c rest ih =>
    rw [cutAt]
    split
    · simp
    · next other =>
      simp only [List.mem_cons, not_or]
      exact ⟨fun same => other same.symm, ih⟩

theorem Text.head?_cutAt_fst {separator c : Char} {cs : List Char}
    (h : (cutAt separator cs).1.head? = some c)
    : cs.head? = some c := by
  cases cs with
  | nil => cases h
  | cons d rest =>
    rw [cutAt] at h
    split at h
    · cases h
    · exact h

theorem Text.ofList_ne_empty {cs : List Char} (h : cs ≠ []) : String.ofList cs ≠ "" := by
  intro empty
  have := congrArg String.toList empty
  simp only [String.toList_ofList] at this
  exact h this

namespace SheetRef

theorem proper_of_span? {book : Option Nat} {cs : List Char} {r : SheetRef}
    (h : span? book cs = some r) (bounded : ∀ index ∈ book, index < 0x100000000)
    (noBracket : book = none → cs.head? ≠ some '[')
    : r.Proper := by
  unfold span? at h
  split at h
  · cases h
  · cases h
  · next first last nonempty lastNonempty cut =>
    cases h
    have firstIs : (Text.cutAt ':' cs).1 = first := congrArg Prod.fst cut
    refine ⟨bounded, Text.ofList_ne_empty ?_, ?_, ?_, ?_⟩
    · intro empty
      exact nonempty empty
    · cases last with
      | none => simp
      | some name =>
        simp only [Option.map_some, ne_eq, Option.some.injEq]
        refine Text.ofList_ne_empty fun empty => ?_
        exact lastNonempty (congrArg some empty)
    · rw [String.toList_ofList, ← firstIs]
      exact Text.cutAt_fst cs
    · intro none bracket
      rw [String.toList_ofList, ← firstIs] at bracket
      exact noBracket none (Text.head?_cutAt_fst bracket)

theorem lt_of_book? {cs : List Char} {index : Nat} (h : book? cs = some index)
    : index < 0x100000000 := by
  unfold book? at h
  split at h
  all_goals
    dsimp only at h
    split at h
    · cases h
    · next bounded =>
      cases h
      simp only [Bool.or_eq_true, decide_eq_true_eq, not_or] at bounded
      omega

theorem proper_of_ofChars? {cs : List Char} {r : SheetRef} (h : ofChars? cs = some r)
    : r.Proper := by
  unfold ofChars? at h
  split at h
  · split at h
    · obtain ⟨index, read, h⟩ := Option.bind_eq_some_iff.mp h
      refine proper_of_span? h ?_ (by simp)
      intro index' same
      cases same
      exact lt_of_book? read
    · cases h
  · next noBracket =>
    refine proper_of_span? h (by simp) fun _ bracket => ?_
    obtain ⟨rest, rfl⟩ := List.head?_eq_some_iff.mp bracket
    exact noBracket rest rfl

end SheetRef

namespace Token

-- Single tokens

theorem isWord_takeWhile {c : Char} {rest : List Char} (start : isIdentifierStart c)
    : IsWord (String.ofList ((c :: rest).takeWhile isIdentifierChar)) := by
  have inside : isIdentifierChar c := isIdentifierChar_of_start start
  refine ⟨?_, ?_⟩
  · rw [String.toList_ofList, List.takeWhile_cons_of_pos inside]
    exact ⟨c, rfl, start⟩
  · rw [String.toList_ofList]
    exact fun d mem => List.all_eq_true.mp List.all_takeWhile d mem

theorem IsWord.ne_empty {name : String} (h : IsWord name) : name ≠ "" := by
  intro empty
  subst empty
  obtain ⟨c, first, _⟩ := h.start
  cases first

/-- Identifiers can name sheets. -/
theorem IsWord.proper_sheet {first : String} {last : Option String} (h : IsWord first)
    (lastNonempty : last ≠ some "")
    : (SheetRef.mk none first last).Proper := by
  refine ⟨by simp, h.ne_empty, lastNonempty, ?_, ?_⟩
  · intro colon
    exact absurd (h.chars ':' colon) (by decide)
  · intro _ bracket
    exact absurd (h.chars '[' (List.mem_of_mem_head? bracket)) (by decide)

theorem proper_punctuation {c : Char} {token : Token} {next : Option Token}
    (h : punctuation? c = some token)
    : token.Proper next := by
  unfold punctuation? at h
  split at h
  all_goals
    cases h
  all_goals exact trivial

theorem proper_ofSheetChars {cs : List Char} {next : Option Token}
    : (ofSheetChars cs).Proper next := by
  unfold ofSheetChars
  split
  · next read => exact SheetRef.proper_of_ofChars? read
  · exact trivial

theorem proper_scanText {cs : List Char} {next : Option Token} : (scanText cs).1.Proper next := by
  unfold scanText
  split <;> exact trivial

theorem proper_scanQuotedSheet {cs : List Char} {next : Option Token}
    : (scanQuotedSheet cs).1.Proper next := by
  unfold scanQuotedSheet
  split
  · exact proper_ofSheetChars
  · exact trivial
  · exact trivial

theorem proper_scanBracketSheet {cs : List Char} {next : Option Token}
    : (scanBracketSheet cs).1.Proper next := by
  unfold scanBracketSheet
  dsimp only
  split
  · exact proper_ofSheetChars
  · exact trivial

theorem proper_scanNumber {cs : List Char} {next : Option Token}
    : (scanNumber cs).1.Proper next := by
  unfold scanNumber
  dsimp only
  split
  · next read => exact Number.isLiteral_of_toFloat? read
  · exact trivial

theorem proper_scanError {cs : List Char} {next : Option Token} : (scanError cs).1.Proper next := by
  unfold scanError
  dsimp only
  split <;> exact trivial

theorem proper_ofWord {word rest : List Char} {next : Option Token}
    (isWord : IsWord (String.ofList word)) (call : rest.head? = some '(' → next = some leftParen)
    : (ofWord word rest).Proper next := by
  unfold ofWord
  dsimp only
  split
  · next opens => exact ⟨isWord, fun other => absurd (call opens) other⟩
  · split
    · exact trivial
    · next noBoolean =>
      split
      · exact trivial
      · next noCell =>
        refine ⟨isWord, fun _ => ⟨isWord, noBoolean, ?_⟩⟩
        rw [String.toList_ofList]
        exact Bool.eq_false_iff.mpr noCell

theorem last_ne_empty {cs rest : List Char} {last : String}
    (h : lastSheet? cs = some (last, rest))
    : last ≠ "" := by
  unfold lastSheet? at h
  dsimp only at h
  split at h
  · split at h
    · cases h
    · next nonempty =>
      cases h
      exact Text.ofList_ne_empty (by simpa using nonempty)
  · cases h

theorem proper_scanWord {c : Char} {rest : List Char} {next : Option Token}
    (start : isIdentifierStart c)
    (call : (scanWord (c :: rest)).2.head? = some '(' → next = some leftParen)
    : (scanWord (c :: rest)).1.Proper next := by
  have isWord : IsWord (String.ofList ((c :: rest).takeWhile isIdentifierChar)) :=
    isWord_takeWhile start
  unfold scanWord at call ⊢
  dsimp only at call ⊢
  split
  · exact isWord.proper_sheet (by simp)
  · next found =>
    split
    · next last => exact isWord.proper_sheet (by simpa using last_ne_empty last)
    · next last =>
      rw [found] at call ⊢
      simp only [last] at call
      exact proper_ofWord isWord call
  · next notSheet notSpan =>
    refine proper_ofWord isWord fun opens => call ?_
    split
    · next found => exact (notSheet _ found).elim
    · next found => exact (notSpan _ found).elim
    · exact opens

/-- Whatever the scanner reads is proper, in view of what it reads next. -/
theorem proper_scanAt {c : Char} {rest : List Char} {next : Option Token}
    (call : (scanAt c rest).2.head? = some '(' → next = some leftParen)
    : (scanAt c rest).1.Proper next := by
  rcases scanAt_cases c rest with ⟨token, isToken, same⟩ | ⟨token, sign, more, _, same⟩ | same
    | same | same | ⟨_, same⟩ | same | ⟨start, same⟩ | same
  all_goals rw [same]
  · exact proper_punctuation isToken
  · simp only [List.mem_cons, List.not_mem_nil, or_false] at sign
    rcases sign with rfl | rfl | rfl | rfl | rfl
    all_goals exact trivial
  · exact proper_scanText
  · exact proper_scanQuotedSheet
  · exact proper_scanBracketSheet
  · exact proper_scanNumber
  · exact proper_scanError
  · rw [same] at call
    exact proper_scanWord start call
  · exact trivial

-- The tokens of a whole text

theorem scanAll_of_scan? {cs rest : List Char} {token : Token} (h : scan? cs = some (token, rest))
    : scanAll cs = token :: scanAll rest := by
  rw [scanAll]
  split
  · next found =>
    cases found.symm.trans h
    rfl
  · next found => cases found.symm.trans h

theorem scanAll_eq_nil {cs : List Char} (h : scan? cs = none) : scanAll cs = [] := by
  rw [scanAll]
  split
  · next found => cases found.symm.trans h
  · rfl

/-- All tokens of a text are proper, by induction along the scan. -/
theorem allProper_scanAll (cs : List Char) : AllProper (scanAll cs) := by
  induction cs using scanAll.induct with
  | case1 cs token rest found ih =>
    rw [scanAll_of_scan? found]
    refine ⟨?_, ih⟩
    unfold scan? at found
    split at found
    · cases found
    · next c after _ =>
      have scanned : scanAt c after = (token, rest) := Option.some.inj found
      have opens : rest.head? = some '(' → (scanAll rest).head? = some leftParen := by
        intro opens
        obtain ⟨more, rfl⟩ := List.head?_eq_some_iff.mp opens
        have first : scan? ('(' :: more) = some (leftParen, more) := rfl
        rw [scanAll_of_scan? first]
        rfl
      have proper : (scanAt c after).1.Proper (scanAll rest).head? :=
        proper_scanAt (by rw [scanned]; exact opens)
      rwa [scanned] at proper
  | case2 cs found =>
    rw [scanAll_eq_nil found]
    exact trivial

end Token

end Spreadsheet
