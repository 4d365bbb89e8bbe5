import Spreadsheet.Proofs.Formula.Reading

/-! The readers of the parser, call by call: what a reader does is a course of calls to readers,
each on some tokens, with what comes next once a call is answered. That a reader does what its
course says is one equation, and how readers call one another can be read off their courses alone.
-/

namespace Spreadsheet

/-- A value that was read, with the tokens that are left. -/
def Parsed.split {α : Type} {limit : Nat} (p : Parsed α limit) : α × List Token :=
  (p.value, p.rest)

namespace Parse

/-- The readers, with what they carry on from those that call them. -/
inductive Reader : Type → Type where
  | binary (level : Nat) : Reader Expr
  | binaryRest (level : Nat) (left : Expr) : Reader Expr
  | unary : Reader Expr
  | percents (operand : Expr) : Reader Expr
  | reference : Reader Expr
  | atom : Reader Expr
  | members (left : Expr) : Reader Expr
  | elements : Reader (List (List Expr))
  | arguments : Reader (List Expr)
  | argumentList : Reader (List Expr)

/-- What came of some tokens: an error, or a value and the tokens that are left. -/
abbrev Outcome (α : Type) := Except ParseError (α × List Token)

/-- What a reader does with its tokens: it ends, or leaves some of them to a reader and goes on
with what that one has read.
-/
inductive Course (α : Type) : Type 1 where
  | ends (outcome : Outcome α)
  | calls {β : Type} (reader : Reader β) (tokens : List Token)
      (goOn : β → List Token → Course α)

variable {α β : Type} {limit bound : Nat}

namespace Course

/-- The course of a reader that leaves everything else to another one. -/
def handsOver (reader : Reader α) (tokens : List Token) : Course α :=
  .calls reader tokens fun value rest => .ends (.ok (value, rest))

end Course

namespace Reader

/-- The outcome of a reader. -/
def read : {α : Type} → Reader α → List Token → Outcome α
  | _, binary level, ts => (Parse.binary level ts).map Parsed.split
  | _, binaryRest level left, ts => (Parse.binaryRest level left ts).map Parsed.split
  | _, unary, ts => (Parse.unary ts).map Parsed.split
  | _, percents operand, ts => .ok (Parse.percents operand ts).split
  | _, reference, ts => (Parse.reference ts).map Parsed.split
  | _, atom, ts => (Parse.atom ts).map Parsed.split
  | _, members left, ts => (Parse.members left ts).map Parsed.split
  | _, elements, ts => (Parse.elements ts).map Parsed.split
  | _, arguments, ts => (Parse.arguments ts).map Parsed.split
  | _, argumentList, ts => (Parse.argumentList ts).map Parsed.split

/-- The course of a reader, call by call. -/
def course : {α : Type} → Reader α → List Token → Course α
  | _, binary level, ts =>
    if level < operandLevel then
      .calls (binary (level + 1)) ts fun first rest => .handsOver (binaryRest level first) rest
    else
      .handsOver unary ts
  | _, binaryRest level left, ts =>
    match ts with
    | [] => .ends (.ok (left, []))
    | token :: rest =>
      match operatorAt? level token with
      | some op =>
        .calls (binary (level + 1)) rest fun right rest =>
          .handsOver (binaryRest level (.binary op left right)) rest
      | none => .ends (.ok (left, token :: rest))
  | _, unary, ts =>
    match ts with
    | .minus :: rest =>
      .calls unary rest fun operand rest => .ends (.ok (.unary .negate operand, rest))
    | .plus :: rest =>
      .calls unary rest fun operand rest => .ends (.ok (.unary .plus operand, rest))
    | ts => .calls reference ts fun operand rest => .handsOver (percents operand) rest
  | _, percents operand, ts =>
    match ts with
    | .percent :: rest => .handsOver (percents (.unary .percent operand)) rest
    | ts => .ends (.ok (operand, ts))
  | _, reference, ts =>
    .calls atom ts fun left rest =>
      match rest with
      | .colon :: rest =>
        .calls atom rest fun right rest => .ends ((rangeOf left right).map (·, rest))
      | rest => .ends (.ok (left, rest))
  | _, atom, ts =>
    match ts with
    | .number value :: rest => .ends (.ok (.number value, rest))
    | .text value :: rest => .ends (.ok (.text value, rest))
    | .boolean value :: rest => .ends (.ok (.boolean value, rest))
    | .error e :: rest => .ends (.ok (.error e, rest))
    | .leftParen :: rest =>
      .calls (binary 1) rest fun first rest => .handsOver (members first) rest
    | .leftBrace :: rest =>
      .calls elements rest fun rows rest => .ends ((arrayOf rows).map (·, rest))
    | .sheet sheet :: .cell text :: rest => .ends ((cellOf (some sheet) text).map (·, rest))
    | .sheet sheet :: _ => .ends (.error (.sheetWithoutCell sheet))
    | .cell text :: rest => .ends ((cellOf none text).map (·, rest))
    | .identifier name :: .leftParen :: rest =>
      .calls arguments rest fun list rest => .ends (.ok (.call (Text.upper name) list, rest))
    | .identifier name :: rest => .ends (.ok (.name name, rest))
    | .invalid text :: _ => .ends (.error (.unreadable text))
    | token :: _ => .ends (.error (.unexpected (some token)))
    | [] => .ends (.error (.unexpected none))
  | _, members left, ts =>
    match ts with
    | .comma :: rest =>
      .calls (binary 1) rest fun right rest => .handsOver (members (.union left right)) rest
    | .rightParen :: rest => .ends (.ok (left, rest))
    | ts => .ends (.error (.unclosed ts.head?))
  | _, elements, ts =>
    .calls (binary 1) ts fun first rest =>
      match rest with
      | .comma :: rest =>
        .calls elements rest fun more rest => .ends (.ok (consElement first more, rest))
      | .semicolon :: rest =>
        .calls elements rest fun more rest => .ends (.ok ([first] :: more, rest))
      | .rightBrace :: rest => .ends (.ok ([[first]], rest))
      | _ => .ends (.error .brokenArray)
  | _, arguments, ts =>
    match ts with
    | .rightParen :: rest => .ends (.ok ([], rest))
    | ts => .handsOver argumentList ts
  | _, argumentList, ts =>
    match ts with
    | .comma :: rest =>
      .calls argumentList rest fun more rest => .ends (.ok (.missing :: more, rest))
    | .rightParen :: rest => .ends (.ok ([.missing], rest))
    | ts =>
      .calls (binary 1) ts fun first rest =>
        match rest with
        | .comma :: rest =>
          .calls argumentList rest fun more rest => .ends (.ok (first :: more, rest))
        | .rightParen :: rest => .ends (.ok ([first], rest))
        | rest => .ends (.error (.unclosed rest.head?))

end Reader

namespace Course

/-- The outcome of a course whose calls are answered by the readers. -/
def outcome : Course α → Outcome α
  | .ends outcome => outcome
  | .calls reader tokens goOn =>
    match reader.read tokens with
    | .ok (value, rest) => (goOn value rest).outcome
    | .error e => .error e

theorem outcome_handsOver (reader : Reader α) (tokens : List Token)
    : (handsOver reader tokens).outcome = reader.read tokens := by
  rw [handsOver, outcome]
  split <;> simp_all [outcome]

end Course

-- Every reader takes its course

/-- A reading that another one comes after is a call. -/
theorem map_bind_eq_outcome {reader : Reader β} {tokens : List Token}
    {goOn : β → List Token → Course α} {reading : ParseResult β limit}
    {next : Parsed β limit → ParseResult α bound}
    (answered : reader.read tokens = reading.map Parsed.split)
    (more : ∀ found, (next found).map Parsed.split = (goOn found.value found.rest).outcome)
    : (reading >>= next).map Parsed.split = (Course.calls reader tokens goOn).outcome := by
  rw [Course.outcome, answered]
  cases reading with
  | error e => rfl
  | ok found => exact more found

/-- A reading that gives its last value or error without tokens is an end. -/
theorem map_pure_eq_outcome {x : Except ParseError α} {rest : List Token}
    {shorter : rest.length < limit}
    : (x >>= fun value => (pure ⟨value, rest, shorter⟩ : ParseResult α limit)).map Parsed.split
      = (Course.ends (x.map (·, rest))).outcome := by
  cases x <;> rfl

/-- Each reader does what its course says. -/
theorem read_eq_outcome (reader : Reader α) (ts : List Token)
    : reader.read ts = (reader.course ts).outcome := by
  cases reader with
  | binary level =>
    rw [Reader.read, Reader.course, binary]
    split
    · exact map_bind_eq_outcome rfl fun first => map_bind_eq_outcome rfl fun all => rfl
    · rw [Course.outcome_handsOver, Reader.read]
  | binaryRest level left =>
    rw [Reader.read, Reader.course.eq_def, binaryRest.eq_def]
    cases ts with
    | nil => rfl
    | cons token rest =>
      dsimp only
      cases operatorAt? level token with
      | none => rfl
      | some op => exact map_bind_eq_outcome rfl fun right => map_bind_eq_outcome rfl fun all => rfl
  | unary =>
    rw [Reader.read, Reader.course.eq_def, unary.eq_def]
    cases ts with
    | nil => exact map_bind_eq_outcome rfl fun operand => rfl
    | cons token rest =>
      cases token with
      | minus => exact map_bind_eq_outcome rfl fun operand => rfl
      | plus => exact map_bind_eq_outcome rfl fun operand => rfl
      | _ => exact map_bind_eq_outcome rfl fun operand => rfl
  | percents operand =>
    rw [Reader.read, Reader.course.eq_def, percents.eq_def]
    cases ts with
    | nil => rfl
    | cons token rest => cases token <;> rfl
  | reference =>
    rw [Reader.read, Reader.course.eq_def, reference]
    refine map_bind_eq_outcome rfl fun left => ?_
    obtain ⟨value, rest, short⟩ := left
    cases rest with
    | nil => rfl
    | cons token rest =>
      cases token with
      | colon => exact map_bind_eq_outcome rfl fun right => map_pure_eq_outcome
      | _ => rfl
  | atom =>
    rw [Reader.read, Reader.course.eq_def, atom.eq_def]
    cases ts with
    | nil => rfl
    | cons token rest =>
      cases token with
      | leftParen =>
        exact map_bind_eq_outcome rfl fun first => map_bind_eq_outcome rfl fun all => rfl
      | leftBrace => exact map_bind_eq_outcome rfl fun rows => map_pure_eq_outcome
      | cell text => exact map_pure_eq_outcome
      | sheet sheet =>
        cases rest with
        | nil => rfl
        | cons token rest =>
          cases token with
          | cell text => exact map_pure_eq_outcome
          | _ => rfl
      | identifier name =>
        cases rest with
        | nil => rfl
        | cons token rest =>
          cases token with
          | leftParen => exact map_bind_eq_outcome rfl fun list => rfl
          | _ => rfl
      | _ => rfl
  | members left =>
    rw [Reader.read, Reader.course.eq_def, members.eq_def]
    cases ts with
    | nil => rfl
    | cons token rest =>
      cases token with
      | comma => exact map_bind_eq_outcome rfl fun right => map_bind_eq_outcome rfl fun all => rfl
      | _ => rfl
  | elements =>
    rw [Reader.read, Reader.course.eq_def, elements]
    refine map_bind_eq_outcome rfl fun first => ?_
    obtain ⟨value, rest, short⟩ := first
    cases rest with
    | nil => rfl
    | cons token rest =>
      cases token with
      | comma =>
        refine map_bind_eq_outcome rfl fun more => ?_
        obtain ⟨rows, rest, short⟩ := more
        cases rows <;> rfl
      | semicolon => exact map_bind_eq_outcome rfl fun more => rfl
      | _ => rfl
  | arguments =>
    rw [Reader.read, Reader.course.eq_def, arguments.eq_def]
    cases ts with
    | nil => exact (Course.outcome_handsOver .argumentList []).symm
    | cons token rest =>
      cases token with
      | rightParen => rfl
      | _ => exact (Course.outcome_handsOver .argumentList _).symm
  | argumentList =>
    rw [Reader.read, Reader.course.eq_def, argumentList.eq_def]
    cases ts with
    | nil =>
      refine map_bind_eq_outcome rfl fun first => ?_
      obtain ⟨value, rest, short⟩ := first
      cases rest with
      | nil => rfl
      | cons token rest =>
        cases token with
        | comma => exact map_bind_eq_outcome rfl fun more => rfl
        | _ => rfl
    | cons token rest =>
      cases token with
      | comma => exact map_bind_eq_outcome rfl fun more => rfl
      | rightParen => rfl
      | _ =>
        refine map_bind_eq_outcome rfl fun first => ?_
        obtain ⟨value, rest, short⟩ := first
        cases rest with
        | nil => rfl
        | cons token rest =>
          cases token with
          | comma => exact map_bind_eq_outcome rfl fun more => rfl
          | _ => rfl

end Parse

end Spreadsheet
