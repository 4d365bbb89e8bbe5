/-! Texts cut into pieces at a separator. -/

namespace Spreadsheet.Text

/-- Cuts a text at its first separator; there is no second piece without a separator. -/
def cutAt (separator : Char) : List Char → List Char × Option (List Char)
  | [] => ([], none)
  | c :: rest =>
    if c = separator then ([], some rest)
    else
      let (left, right) := cutAt separator rest
      (c :: left, right)

/-- The pieces between the separators; always at least one. -/
def pieces (separator : Char) : List Char → List (List Char)
  | [] => [[]]
  | c :: rest =>
    if c = separator then [] :: pieces separator rest
    else match pieces separator rest with
      | first :: others => (c :: first) :: others
      | [] => [[c]]

end Spreadsheet.Text
