import Spreadsheet.Formula.Expr
import Spreadsheet.Formula.Scan
import Spreadsheet.Text.Case

/-! Parsing: tokens into trees by recursive descent over the levels of operators. Each step
returns the tokens that it leaves, fewer than it was given, which is why the descent ends.
-/

namespace Spreadsheet

/-- Why a text is no formula. -/
inductive ParseError where
  | noEqualsSign
  /-- A formula is complete, and more follows. -/
  | trailing (found : Token)
  /-- A parenthesis is not closed where it has to be. -/
  | unclosed (found : Option Token)
  /-- An operand is missing. -/
  | unexpected (found : Option Token)
  | unreadable (text : String)
  /-- The corners of a range lie on different sheets. -/
  | sheetsDiffer
  /-- A corner of a range is no cell reference. -/
  | notACorner
  /-- Neither the array ends behind an element, nor does another one follow. -/
  | brokenArray
  | raggedArray
  | sheetWithoutCell (sheet : SheetRef)
  | badCell (text : String) (e : AddressError)

/-- The wording of a parse error. -/
def ParseError.message : ParseError → String
  | noEqualsSign => "Parse error: Formula must start with '='"
  | trailing found => "Parse error: Unexpected " ++ found.diagnostic ++ " after expression"
  | unclosed found => "Parse error: Expected RightParen, got " ++ Token.diagnosticOrEnd found
  | unexpected found => "Parse error: Unexpected token: " ++ Token.diagnosticOrEnd found
  | unreadable text => "Parse error: Unrecognized input '" ++ text ++ "'"
  | sheetsDiffer => "Parse error: Range references must be on the same sheet"
  | notACorner => "Parse error: Range operator ':' needs a cell reference on each side"
  | brokenArray => "Parse error: Expected ',' ';' or '\x7d' in array"
  | raggedArray => "Parse error: Array constant rows must all have the same number of values"
  | sheetWithoutCell sheet => "Parse error: Expected cell reference after " ++ sheet.text ++ "!"
  | badCell text e => "Parse error: Invalid cell reference '" ++ text ++ "': " ++ e.message

/-- A part of a formula read off the front of some tokens, and the tokens it leaves. -/
structure Parsed (α : Type) (limit : Nat) where
  value : α
  rest : List Token
  shorter : rest.length < limit

namespace Parsed

variable {α β : Type} {limit bound : Nat}

/-- The same part, with more tokens allowed to be left. -/
def weaken (p : Parsed α limit) (h : limit ≤ bound) : Parsed α bound :=
  ⟨p.value, p.rest, Nat.lt_of_lt_of_le p.shorter h⟩

/-- Another value for the same tokens. -/
def map (f : α → β) (p : Parsed α limit) : Parsed β limit :=
  ⟨f p.value, p.rest, p.shorter⟩

end Parsed

/-- The outcome of reading a part of a formula off some tokens. -/
abbrev ParseResult (α : Type) (limit : Nat) := Except ParseError (Parsed α limit)

namespace Parse

/-- The operator that a token is at a level. -/
def operatorAt? (level : Nat) (token : Token) : Option BinaryOperator :=
  let op? : Option BinaryOperator := match token with
    | .equal => some (.comparison .equal)
    | .notEqual => some (.comparison .notEqual)
    | .less => some (.comparison .less)
    | .lessEqual => some (.comparison .lessEqual)
    | .greater => some (.comparison .greater)
    | .greaterEqual => some (.comparison .greaterEqual)
    | .ampersand => some .concat
    | .plus => some (.arithmetic .add)
    | .minus => some (.arithmetic .subtract)
    | .star => some (.arithmetic .multiply)
    | .slash => some (.arithmetic .divide)
    | .caret => some (.arithmetic .power)
    | _ => none
  op?.filter fun op => op.level == level

/-- The level above those of the binary operators. -/
def operandLevel : Nat := 6

/-- The reference that a token of the shape of an address stands for. -/
def cellOf (sheet : Option SheetRef) (text : String) : Except ParseError Expr :=
  match Address.parse text with
  | .ok address => .ok (.cell sheet address)
  | .error e => .error (.badCell text e)

/-- The range between two corners; the second one may repeat the sheet of the first. -/
def rangeOf (left right : Expr) : Except ParseError Expr :=
  match left, right with
  | .cell sheet a, .cell sheet' b =>
    if sheet'.isSome && sheet' ≠ sheet then .error .sheetsDiffer
    else .ok (.range sheet (.spanning a b))
  | _, _ => .error .notACorner

/-- An array whose rows are equally long. -/
def arrayOf (rows : List (List Expr)) : Except ParseError Expr :=
  let width := (rows.head?.map List.length).getD 0
  if rows.all fun row => row.length == width then .ok (.array rows) else .error .raggedArray

/-- An operand with the percent signs that follow it. -/
def percents (operand : Expr) : (ts : List Token) → Parsed Expr (ts.length + 1)
  | .percent :: ts => (percents (.unary .percent operand) ts).weaken (by simp)
  | ts => ⟨operand, ts, Nat.lt_succ_self _⟩

/-! The readers below call one another. Each of them either takes a token or goes on to one that
ranks lower among those that may start at the same token.
-/

mutual

/-- Reads operands of the next level with the operators of this level between them. -/
def binary (level : Nat) (ts : List Token) : ParseResult Expr ts.length :=
  if level < operandLevel then do
    let first ← binary (level + 1) ts
    let all ← binaryRest level first.value first.rest
    return all.weaken first.shorter
  else
    unary ts
termination_by 32 * ts.length + (20 - min level operandLevel)
decreasing_by
  · simp only [operandLevel] at *; omega
  · have := first.shorter; omega
  · simp only [operandLevel] at *; omega

/-- Reads on behind a left operand as long as operators of the level follow. -/
def binaryRest (level : Nat) (left : Expr) (ts : List Token)
    : ParseResult Expr (ts.length + 1) :=
  match ts with
  | [] => return ⟨left, [], Nat.lt_succ_self _⟩
  | token :: rest =>
    match operatorAt? level token with
    | some op => do
      let right ← binary (level + 1) rest
      let all ← binaryRest level (.binary op left right.value) right.rest
      return all.weaken (Nat.succ_le_succ (Nat.le_succ_of_le (Nat.le_of_lt right.shorter)))
    | none => return ⟨left, token :: rest, Nat.lt_succ_self _⟩
termination_by 32 * ts.length
decreasing_by
  · simp only [List.length_cons]; omega
  · have := right.shorter; simp only [List.length_cons]; omega

/-- Reads signs and the operand they apply to. -/
def unary (ts : List Token) : ParseResult Expr ts.length :=
  match ts with
  | .minus :: rest => do
    let operand ← unary rest
    return (operand.map (.unary .negate)).weaken (by simp)
  | .plus :: rest => do
    let operand ← unary rest
    return (operand.map (.unary .plus)).weaken (by simp)
  | ts => do
    let operand ← reference ts
    return (percents operand.value operand.rest).weaken operand.shorter
termination_by 32 * ts.length + 3
decreasing_by
  · simp
  · simp
  · omega

/-- Reads an atom, or a range between two of them. -/
def reference (ts : List Token) : ParseResult Expr ts.length := do
  let left ← atom ts
  match _h : left.rest with
  | .colon :: rest =>
    let right ← atom rest
    let range ← rangeOf left.value right.value
    return ⟨range, right.rest, by
      have := left.shorter
      have := right.shorter
      simp_all
      omega⟩
  | _ => return left
termination_by 32 * ts.length + 2
decreasing_by
  · omega
  · have := left.shorter; simp_all; omega

/-- Reads a literal, a reference to a cell, a name, a call, an array, or what stands in
parentheses.
-/
def atom (ts : List Token) : ParseResult Expr ts.length :=
  match ts with
  | .number value :: rest => return ⟨.number value, rest, by simp⟩
  | .text value :: rest => return ⟨.text value, rest, by simp⟩
  | .boolean value :: rest => return ⟨.boolean value, rest, by simp⟩
  | .error e :: rest => return ⟨.error e, rest, by simp⟩
  | .leftParen :: rest => do
    let first ← binary 1 rest
    let all ← members first.value first.rest
    return all.weaken (by have := first.shorter; simp only [List.length_cons]; omega)
  | .leftBrace :: rest => do
    let rows ← elements rest
    return ⟨← arrayOf rows.value, rows.rest, by
      have := rows.shorter
      simp only [List.length_cons]
      omega⟩
  | .sheet sheet :: .cell text :: rest => do
    return ⟨← cellOf (some sheet) text, rest, by simp only [List.length_cons]; omega⟩
  | .sheet sheet :: _ => throw (.sheetWithoutCell sheet)
  | .cell text :: rest => do
    return ⟨← cellOf none text, rest, by simp⟩
  | .identifier name :: .leftParen :: rest => do
    let list ← arguments rest
    return (list.map (.call (Text.upper name))).weaken (by simp only [List.length_cons]; omega)
  | .identifier name :: rest => return ⟨.name name, rest, by simp⟩
  | .invalid text :: _ => throw (.unreadable text)
  | token :: _ => throw (.unexpected (some token))
  | [] => throw (.unexpected none)
termination_by 32 * ts.length + 1
decreasing_by
  · simp only [List.length_cons]; omega
  · have := first.shorter; simp only [List.length_cons]; omega
  · simp only [List.length_cons]; omega
  · simp only [List.length_cons]; omega

/-- Reads the further members of a union up to the closing parenthesis. -/
def members (left : Expr) (ts : List Token) : ParseResult Expr ts.length :=
  match ts with
  | .comma :: rest => do
    let right ← binary 1 rest
    let all ← members (.union left right.value) right.rest
    return all.weaken (by have := right.shorter; simp only [List.length_cons]; omega)
  | .rightParen :: rest => return ⟨left, rest, by simp⟩
  | ts => throw (.unclosed ts.head?)
termination_by 32 * ts.length
decreasing_by
  · simp only [List.length_cons]; omega
  · have := right.shorter; simp only [List.length_cons]; omega

/-- Reads the elements of an array by rows, up to the closing brace. -/
def elements (ts : List Token) : ParseResult (List (List Expr)) ts.length := do
  let first ← binary 1 ts
  match _h : first.rest with
  | .comma :: rest =>
    let more ← elements rest
    let rows := match more.value with
      | row :: rows => (first.value :: row) :: rows
      | [] => [[first.value]]
    return ⟨rows, more.rest, by
      have := first.shorter
      have := more.shorter
      simp_all
      omega⟩
  | .semicolon :: rest =>
    let more ← elements rest
    return ⟨[first.value] :: more.value, more.rest, by
      have := first.shorter
      have := more.shorter
      simp_all
      omega⟩
  | .rightBrace :: rest =>
    return ⟨[[first.value]], rest, by have := first.shorter; simp_all; omega⟩
  | _ => throw .brokenArray
termination_by 32 * ts.length + 30
decreasing_by
  · simp only [operandLevel]; omega
  · have := first.shorter; simp_all; omega
  · have := first.shorter; simp_all; omega

/-- Reads the arguments of a call up to the closing parenthesis; there may be none. -/
def arguments (ts : List Token) : ParseResult (List Expr) ts.length :=
  match ts with
  | .rightParen :: rest => return ⟨[], rest, by simp⟩
  | ts => argumentList ts
termination_by 32 * ts.length + 31
decreasing_by omega

/-- Reads at least one argument; where a comma or the closing parenthesis stands in the place of
an argument, the argument is missing.
-/
def argumentList (ts : List Token) : ParseResult (List Expr) ts.length :=
  match ts with
  | .comma :: rest => do
    let more ← argumentList rest
    return (more.map (.missing :: ·)).weaken (by simp)
  | .rightParen :: rest => return ⟨[.missing], rest, by simp⟩
  | ts => do
    let first ← binary 1 ts
    match _h : first.rest with
    | .comma :: rest =>
      let more ← argumentList rest
      return (more.map (first.value :: ·)).weaken (by
        have := first.shorter
        simp_all
        omega)
    | .rightParen :: rest =>
      return ⟨[first.value], rest, by have := first.shorter; simp_all; omega⟩
    | rest => throw (.unclosed rest.head?)
termination_by 32 * ts.length + 30
decreasing_by
  · simp
  · simp only [operandLevel]; omega
  · have := first.shorter; simp_all; omega

end

/-- Reads all of a list of tokens as one formula. -/
def formula (ts : List Token) : Except ParseError Expr := do
  let parsed ← binary 1 ts
  match parsed.rest with
  | [] => return parsed.value
  | token :: _ => throw (.trailing token)

end Parse

/-- Reads a formula, which starts with an equals sign and may have white space around it. -/
def Expr.parse (text : String) : Except ParseError Expr :=
  match Unicode.trim text.toList with
  | '=' :: cs => Parse.formula (Token.scanAll cs)
  | _ => .error .noEqualsSign

end Spreadsheet
