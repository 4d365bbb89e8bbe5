import Spreadsheet.Unicode.CodeRanges

/-! White space: the 25 characters of the Unicode property White_Space, and texts cut at them. -/

namespace Spreadsheet.Unicode

/-- The characters of the property White_Space. -/
def whiteSpaceRanges : CodeRanges := [
  (0x9, 0xd), (0x20, 0x20), (0x85, 0x85), (0xa0, 0xa0), (0x1680, 0x1680), (0x2000, 0x200a),
  (0x2028, 0x2029), (0x202f, 0x202f), (0x205f, 0x205f), (0x3000, 0x3000)
]

/-- White space includes the no-break spaces, and neither the zero-width space nor the byte
order mark.
-/
def isWhiteSpace (c : Char) : Bool :=
  whiteSpaceRanges.contains c

/-- The characters left after white space has been dropped at both ends. -/
def trim (cs : List Char) : List Char :=
  ((cs.dropWhile isWhiteSpace).reverse.dropWhile isWhiteSpace).reverse

/-- The first run of characters that are not white space; empty if there is none. -/
def firstWord (cs : List Char) : List Char :=
  (cs.dropWhile isWhiteSpace).takeWhile (!isWhiteSpace ·)

end Spreadsheet.Unicode
