import Spreadsheet.Book.DefinedName
import Spreadsheet.Proofs.Formula.RoundTrip

/-! Which defined names a formula can mention. The rules for defining a name and those for reading
one were made apart: a name may be defined that starts with a letter which starts no word in a
formula, or that a formula reads as a cell.
-/

namespace Spreadsheet

open Grammar Token

namespace DefinedName

variable {n : String} {c : Char}

/-- One to three ASCII letters and then digits. -/
def LooksLikeCell (name : String) : Prop :=
  ∃ letters digits, name.toList = letters ++ digits ∧ 1 ≤ letters.length ∧ letters.length ≤ 3
    ∧ (∀ c ∈ letters, c.isAlpha) ∧ digits ≠ [] ∧ ∀ c ∈ digits, c.isDigit

/-- A name that starts as words in formulas do and does not look like a cell. -/
structure Mentionable (name : String) : Prop where
  start : ∃ c ∈ name.toList.head?, c.toNat < 0x80
  noCell : ¬LooksLikeCell name

/-- The rules for defining a name. -/
structure Valid (name : String) : Prop where
  start : ∃ c ∈ name.toList.head?, Unicode.isAlphabetic c ∨ c = '_' ∨ c = '\\'
  inside : ∀ c ∈ name.toList.tail, Unicode.isAlphanumeric c ∨ c = '_' ∨ c = '.'
  noBoolean : Text.boolean? name = none

theorem valid_of_isValid (h : isValid n) : Valid n := by
  unfold isValid at h
  split at h
  · cases h
  · next first rest chars =>
    simp only [Bool.and_eq_true, Bool.or_eq_true, decide_eq_true_eq, List.all_eq_true,
      Option.isNone_iff_eq_none] at h
    obtain ⟨⟨start, inside⟩, noBoolean⟩ := h
    refine ⟨⟨first, by simp [chars], ?_⟩, fun c mem => ?_, noBoolean⟩
    · rwa [or_assoc] at start
    · rw [chars] at mem
      exact or_assoc.mp (inside c mem)

theorem Valid.char (valid : Valid n) (mem : c ∈ n.toList)
    : Unicode.isAlphanumeric c ∨ c = '_' ∨ c = '.' ∨ c = '\\' := by
  obtain ⟨first, head, start⟩ := valid.start
  obtain ⟨rest, chars⟩ := List.head?_eq_some_iff.mp head
  have inside := valid.inside c
  rw [chars] at mem inside
  rcases List.mem_cons.mp mem with rfl | later
  · rcases start with letter | underscore | backslash
    · exact .inl (Bool.or_eq_true_iff.mpr (.inl letter))
    · exact .inr (.inl underscore)
    · exact .inr (.inr (.inr backslash))
  · rcases inside later with letter | underscore | point
    · exact .inl letter
    · exact .inr (.inl underscore)
    · exact .inr (.inr (.inl point))

theorem Valid.no_dollar (valid : Valid n) : '$' ∉ n.toList := by
  intro mem
  have noName : ¬(Unicode.isAlphanumeric '$' ∨ '$' = '_' ∨ '$' = '.' ∨ '$' = '\\') := by
    decide +kernel
  exact noName (valid.char mem)

/-- A valid name is a word if its first character is one of ASCII. -/
theorem Valid.isWord (valid : Valid n) (ascii : ∃ c ∈ n.toList.head?, c.toNat < 0x80)
    : IsWord n where
  start := by
    obtain ⟨c, head, start⟩ := valid.start
    obtain ⟨c', head', small⟩ := ascii
    obtain rfl : c = c' := Option.some.inj (head.symm.trans head')
    refine ⟨c, head, ?_⟩
    rcases start with letter | rfl | rfl
    · rw [Unicode.isAlphabetic, if_pos small] at letter
      simp [isIdentifierStart, letter]
    · decide
    · decide
  chars c mem := by
    rcases valid.char mem with letter | rfl | rfl | rfl
    · exact isIdentifierChar_of_isAlphanumeric letter
    all_goals decide

theorem splitMark_of_no_dollar {cs : List Char} (absent : '$' ∉ cs)
    : Address.splitMark cs = (false, cs) := by
  unfold Address.splitMark
  split
  · exact absurd List.mem_cons_self absent
  · rfl

/-- Without dollar signs only letters and digits have the shape of an address. -/
theorem hasCellShape_iff (noDollar : '$' ∉ n.toList)
    : hasCellShape n.toList ↔ LooksLikeCell n := by
  have behind : '$' ∉ n.toList.dropWhile Char.isAlpha :=
    fun mem => noDollar ((List.dropWhile_sublist _).mem mem)
  simp only [hasCellShape, splitMark_of_no_dollar noDollar, splitMark_of_no_dollar behind,
    Bool.and_eq_true, decide_eq_true_eq, Bool.not_eq_true', List.isEmpty_eq_false_iff,
    List.all_eq_true]
  constructor
  · rintro ⟨⟨⟨one, three⟩, nonempty⟩, digits⟩
    refine ⟨_, _, (List.takeWhile_append_dropWhile (p := Char.isAlpha)).symm, one, three, ?_,
      nonempty, digits⟩
    exact fun c mem => List.mem_takeWhile_imp mem
  · rintro ⟨letters, digits, chars, one, three, alpha, nonempty, digit⟩
    have stops : Text.StopsAt Char.isAlpha digits := fun c next =>
      Unicode.forall_digit (P := fun c => c.isAlpha = false) (by decide)
        (digit c (List.mem_of_mem_head? next))
    rw [chars, Text.takeWhile_run alpha stops, Text.dropWhile_run alpha stops]
    exact ⟨⟨⟨one, three⟩, nonempty⟩, digit⟩

/-- The name of a valid definition can be mentioned in a formula if it starts with an ASCII
character and does not look like a cell, and only then.
-/
theorem parse_eq_name_iff (valid : isValid n)
    : Expr.parse ("=" ++ n) = .ok (.name n) ↔ Mentionable n := by
  have valid := valid_of_isValid valid
  constructor
  · intro parsed
    have isName : IsName n := (Expr.wellFormed_iff.mp (Expr.wellFormed_of_parse parsed).1).1
    obtain ⟨c, head, start⟩ := isName.start
    refine ⟨⟨c, head, ascii_of_isIdentifierStart start⟩, fun looksLikeCell => ?_⟩
    have shape := (hasCellShape_iff valid.no_dollar).mpr looksLikeCell
    cases isName.noCell.symm.trans shape
  · rintro ⟨ascii, noCell⟩
    have isWord := valid.isWord ascii
    have noShape : hasCellShape n.toList = false :=
      Bool.eq_false_iff.mpr fun shape => noCell ((hasCellShape_iff valid.no_dollar).mp shape)
    have isName : IsName n := ⟨isWord, valid.noBoolean, noShape⟩
    have written : "=" ++ n = String.ofList ('=' :: n.toList) := by
      rw [← String.toList_inj]
      simp
    have derived : Derives .formula [identifier n] (.name n) :=
      (Binds.of_atom (.name n)).formula (by decide)
    have visible : Expr.EndsVisibly n.toList := Expr.endsVisibly_of_forall fun c mem =>
      not_isWhiteSpace_of_isIdentifierChar (isWord.chars c mem)
    rw [written]
    exact Expr.parse_of_spells (spells_name isName) derived visible

end DefinedName

end Spreadsheet
