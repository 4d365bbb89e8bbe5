import Mathlib.Logic.Function.Iterate
import Spreadsheet.Formula.Expr
import Spreadsheet.Formula.Token
import Spreadsheet.Formula.Render

/-! The grammar of formulas, over tokens and apart from any way of reading them. Each binary
level is a chain of operands of the next level and groups to the left.
-/

namespace Spreadsheet

/-- The token that writes a binary operator. -/
def BinaryOperator.token : BinaryOperator → Token
  | comparison .equal => .equal
  | comparison .notEqual => .notEqual
  | comparison .less => .less
  | comparison .lessEqual => .lessEqual
  | comparison .greater => .greater
  | comparison .greaterEqual => .greaterEqual
  | concat => .ampersand
  | arithmetic .add => .plus
  | arithmetic .subtract => .minus
  | arithmetic .multiply => .star
  | arithmetic .divide => .slash
  | arithmetic .power => .caret

/-- The literal that a token is. -/
def Token.literal? : Token → Option Expr
  | number value => some (.number value)
  | text value => some (.text value)
  | boolean value => some (.boolean value)
  | error e => some (.error e)
  | _ => none

namespace Grammar

/-- What a run of tokens can stand for. -/
inductive Symbol where
  /-- Operands joined by the operators of a level: comparisons have level 1, joined texts 2,
  sums 3, products 4 and powers 5. At the level of unary operators nothing is joined.
  -/
  | chain (level : Nat)
  /-- An operand with signs in front of it or percent signs behind. -/
  | signed
  /-- An atom, or two corners around a colon. -/
  | range
  /-- A literal, a reference, a name, a call, an array, or what stands in parentheses. -/
  | atom
  /-- An argument of a call, which may be left out. -/
  | argument

/-- A whole formula is a chain of the lowest level. -/
abbrev Symbol.formula : Symbol := .chain 1

/-- Tokens with the formula that they stand for. -/
structure Phrase where
  tokens : List Token
  value : Expr

/-- Phrases with commas between them. -/
def commaTokens (phrases : List Phrase) : List Token :=
  [Token.comma].intercalate (phrases.map Phrase.tokens)

/-- Rows of phrases with semicolons between them. -/
def rowTokens (rows : List (List Phrase)) : List Token :=
  [Token.semicolon].intercalate (rows.map commaTokens)

/-- The tokens of a chain behind its first operand. -/
def linkTokens (links : List (BinaryOperator × Phrase)) : List Token :=
  links.flatMap fun link => link.1.token :: link.2.tokens

/-- A chain grouped to the left. -/
def linkFrom (first : Expr) (links : List (BinaryOperator × Phrase)) : Expr :=
  links.foldl (fun left link => .binary link.1 left link.2.value) first

/-- The tokens of a union behind its first member. -/
def memberTokens (members : List Phrase) : List Token :=
  members.flatMap fun member => .comma :: member.tokens

/-- A union grouped to the left; one member alone is no union. -/
def uniteFrom (first : Expr) (members : List Phrase) : Expr :=
  members.foldl (fun left member => .union left member.value) first

theorem linkTokens_cons (op : BinaryOperator) (p : Phrase) (links : List (BinaryOperator × Phrase))
    : linkTokens ((op, p) :: links) = op.token :: (p.tokens ++ linkTokens links) := by
  simp [linkTokens]

theorem memberTokens_cons (p : Phrase) (members : List Phrase)
    : memberTokens (p :: members) = .comma :: (p.tokens ++ memberTokens members) := by
  simp [memberTokens]

theorem commaTokens_singleton (p : Phrase) : commaTokens [p] = p.tokens := by
  simp [commaTokens]

theorem commaTokens_cons (p : Phrase) {phrases : List Phrase} (h : phrases ≠ [])
    : commaTokens (p :: phrases) = p.tokens ++ .comma :: commaTokens phrases := by
  simp [commaTokens, List.intercalate_cons_of_ne_nil, h]

theorem rowTokens_singleton (row : List Phrase) : rowTokens [row] = commaTokens row := by
  simp [rowTokens]

theorem rowTokens_cons (row : List Phrase) {rows : List (List Phrase)} (h : rows ≠ [])
    : rowTokens (row :: rows) = commaTokens row ++ .semicolon :: rowTokens rows := by
  simp [rowTokens, List.intercalate_cons_of_ne_nil, h]

/-- The token of the sheets in front of a reference, if it names any. -/
def sheetTokens : Option SheetRef → List Token
  | some sheet => [.sheet sheet]
  | none => []

/-- A run of tokens stands for a formula as a symbol of the grammar. -/
inductive Derives : Symbol → List Token → Expr → Prop
  | chain {level ts first} (links : List (BinaryOperator × Phrase))
    (below : level < Expr.unaryLevel)
    (head : Derives (.chain (level + 1)) ts first)
    (levels : ∀ link ∈ links, link.1.level = level)
    (operands : ∀ link ∈ links, Derives (.chain (level + 1)) link.2.tokens link.2.value)
    : Derives (.chain level) (ts ++ linkTokens links) (linkFrom first links)
  | operand {ts e} (operand : Derives .signed ts e) : Derives (.chain Expr.unaryLevel) ts e
  | negated {ts e} (operand : Derives .signed ts e)
    : Derives .signed (.minus :: ts) (.unary .negate e)
  | plus {ts e} (operand : Derives .signed ts e)
    : Derives .signed (.plus :: ts) (.unary .plus e)
  | percents {ts e} (count : Nat) (operand : Derives .range ts e)
    : Derives .signed (ts ++ List.replicate count Token.percent)
        ((Expr.unary .percent)^[count] e)
  | single {ts e} (atom : Derives .atom ts e) : Derives .range ts e
  | corners {ts us sheet sheet' a b}
    (left : Derives .atom ts (.cell sheet a)) (right : Derives .atom us (.cell sheet' b))
    (same : sheet' = none ∨ sheet' = sheet)
    : Derives .range (ts ++ .colon :: us) (.range sheet (.spanning a b))
  | literal {token value} (same : token.literal? = some value) : Derives .atom [token] value
  | cell {text a} (sheet : Option SheetRef) (read : Address.parse text = .ok a)
    (inGrid : a.position.InGrid)
    : Derives .atom (sheetTokens sheet ++ [Token.cell text]) (.cell sheet a)
  | name (name : String) : Derives .atom [.identifier name] (.name name)
  | emptyCall (name : String)
    : Derives .atom [.identifier name, .leftParen, .rightParen] (.call (Text.upper name) [])
  | call (name : String) (arguments : List Phrase)
    (written : commaTokens arguments ≠ [])
    (each : ∀ argument ∈ arguments, Derives .argument argument.tokens argument.value)
    : Derives .atom (.identifier name :: .leftParen :: commaTokens arguments ++ [Token.rightParen])
        (.call (Text.upper name) (arguments.map Phrase.value))
  | parentheses {ts first} (members : List Phrase)
    (head : Derives .formula ts first)
    (each : ∀ member ∈ members, Derives .formula member.tokens member.value)
    : Derives .atom (.leftParen :: ts ++ memberTokens members ++ [Token.rightParen])
        (uniteFrom first members)
  | array {width} (rows : List (List Phrase)) (nonempty : rows ≠ []) (wide : 0 < width)
    (rectangular : ∀ row ∈ rows, row.length = width)
    (each : ∀ row ∈ rows, ∀ element ∈ row, Derives .formula element.tokens element.value)
    : Derives .atom (.leftBrace :: rowTokens rows ++ [Token.rightBrace])
        (.array (rows.map (·.map Phrase.value)))
  | given {ts e} (formula : Derives .formula ts e) : Derives .argument ts e
  | leftOut : Derives .argument [] .missing

end Grammar

end Spreadsheet
