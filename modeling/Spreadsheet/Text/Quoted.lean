import Spreadsheet.Unicode.Hidden

/-! Two ways of quoting text. Formulas write the quote character twice inside a quoted text;
diagnostics escape what would not be seen in print.
-/

namespace Spreadsheet.Text

/-- The characters with every `quote` among them written twice. -/
def double (quote : Char) : List Char → List Char
  | [] => []
  | c :: rest => if c = quote then c :: c :: double quote rest else c :: double quote rest

/-- A text between quotes, in which a quote is written twice. -/
def enclose (quote : Char) (cs : List Char) : List Char :=
  quote :: double quote cs ++ [quote]

/-- Reads on from behind an opening quote: the text it opens, and what follows the closing
quote, or nothing if there is no closing quote.
-/
def splitQuoted (quote : Char) : List Char → List Char × Option (List Char)
  | [] => ([], none)
  | [c] => if c = quote then ([], some []) else ([c], none)
  | c :: d :: rest =>
    if c = quote then
      if d = quote then
        let read := splitQuoted quote rest
        (quote :: read.1, read.2)
      else ([], some (d :: rest))
    else
      let read := splitQuoted quote (d :: rest)
      (c :: read.1, read.2)

/-- What follows a closing quote is shorter than what was read, by induction along the scan. -/
theorem length_lt_of_splitQuoted {quote : Char} {cs rest : List Char}
    (h : (splitQuoted quote cs).2 = some rest)
    : rest.length < cs.length := by
  fun_induction splitQuoted quote cs with
  | case1 => cases h
  | case2 => cases h; simp
  | case3 => cases h
  | case4 _ _ ih =>
    have := ih h
    simp
    omega
  | case5 => cases h; simp
  | case6 _ _ _ _ _ ih =>
    have := ih h
    simp at this ⊢
    omega

/-- A character as it stands in a diagnostic. -/
def escape (c : Char) : List Char :=
  if c = '"' then ['\\', '"']
  else if c = '\\' then ['\\', '\\']
  else if c = '\t' then ['\\', 't']
  else if c = '\n' then ['\\', 'n']
  else if c = '\r' then ['\\', 'r']
  else if c = '\x00' then ['\\', '0']
  else if Unicode.isHidden c then
    ['\\', 'u', '\x7b'] ++ Nat.toDigits 16 c.toNat ++ ['\x7d']
  else [c]

/-- A text as it stands in a diagnostic: in double quotes, with escapes. -/
def diagnostic (text : String) : String :=
  String.ofList ('"' :: text.toList.flatMap escape ++ ['"'])

end Spreadsheet.Text
