import Spreadsheet.Unicode.CaseMapping

/-! The case of whole texts. Lower case depends on context in one place: a capital sigma that
ends a word becomes the final form of the letter.
-/

namespace Spreadsheet.Text

/-- The nearest character that is not ignored for case is cased. -/
def startsCased (cs : List Char) : Bool :=
  match cs.dropWhile Unicode.isCaseIgnorable with
  | c :: _ => Unicode.isCased c
  | [] => false

/-- The lower case of a run of characters, of which `before` are those in front of it with the
nearest one first.
-/
def lowerAfter (before : List Char) : List Char → List Char
  | [] => []
  | c :: rest =>
    let mapped :=
      if c = 'Σ' then
        if startsCased before && !startsCased rest then ['ς'] else ['σ']
      else
        Unicode.lower c
    mapped ++ lowerAfter (c :: before) rest

/-- A text in lower case. -/
def lower (text : String) : String :=
  String.ofList (lowerAfter [] text.toList)

/-- A text in upper case. -/
def upper (text : String) : String :=
  String.ofList (text.toList.flatMap Unicode.upper)

/-- The characters that texts are compared by: each one raised and then lowered, so that
letters which share a capital agree.
-/
def fold (cs : List Char) : List Char :=
  (cs.flatMap Unicode.upper).flatMap Unicode.lower

/-- Two texts agree but for the case of ASCII letters. -/
def eqIgnoringAsciiCase (left right : String) : Bool :=
  left.toList.map Char.toLower == right.toList.map Char.toLower

/-- `TRUE` or `FALSE` in any case, as a truth value. -/
def boolean? (text : String) : Option Bool :=
  if eqIgnoringAsciiCase text "TRUE" then some true
  else if eqIgnoringAsciiCase text "FALSE" then some false
  else none

/-- The two truth values as cells show them. -/
def ofBool : Bool → String
  | true => "TRUE"
  | false => "FALSE"

end Spreadsheet.Text
