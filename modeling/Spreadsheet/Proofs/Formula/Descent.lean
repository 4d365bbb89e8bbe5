import Mathlib.Logic.Relation
import Spreadsheet.Proofs.Formula.Courses
import Spreadsheet.Proofs.Formula.Scanning

/-! The descent of the parser ends. Calls that take no token only lead down the levels of the
grammar, so that no routine comes back to itself without having taken one, and every reader comes
to an outcome on all tokens, whatever they are.
-/

namespace Spreadsheet

namespace Parse

variable {α β : Type}

-- What a routine may leave, and where it may lead

/-- The routines of the parser, as readers without what they carry. -/
inductive Routine where
  | binary (level : Nat)
  | binaryRest (level : Nat)
  | unary
  | percents
  | reference
  | atom
  | members
  | elements
  | arguments
  | argumentList

/-- How far a routine is from one that takes a token. -/
def Routine.rank : Routine → Nat
  | binary level => 20 - min level operandLevel
  | binaryRest _ => 0
  | unary => 3
  | percents => 0
  | reference => 2
  | atom => 1
  | members => 0
  | elements => 30
  | arguments => 31
  | argumentList => 30

/-- The routine of a reader. -/
def Reader.routine : {α : Type} → Reader α → Routine
  | _, binary level => .binary level
  | _, binaryRest level _ => .binaryRest level
  | _, unary => .unary
  | _, percents _ => .percents
  | _, reference => .reference
  | _, atom => .atom
  | _, members _ => .members
  | _, elements => .elements
  | _, arguments => .arguments
  | _, argumentList => .argumentList

/-- Some tokens stand behind at least one token of others. -/
def Behind (ts us : List Token) : Prop :=
  ∃ taken, taken ≠ [] ∧ ts = taken ++ us

section Behind

variable {ts us vs : List Token} {token : Token}

theorem behind_cons : Behind (token :: ts) us ↔ us <:+ ts := by
  constructor
  · intro h
    obtain ⟨taken, nonempty, cut⟩ := h
    cases taken with
    | nil => exact absurd rfl nonempty
    | cons first taken => exact ⟨taken, (List.cons.inj cut).2.symm⟩
  · intro h
    obtain ⟨taken, rfl⟩ := h
    exact ⟨token :: taken, List.cons_ne_nil _ _, rfl⟩

theorem behind_tail : Behind (token :: ts) ts :=
  behind_cons.mpr List.suffix_rfl

theorem Behind.of_suffix (h : Behind ts us) (rest : vs <:+ us) : Behind ts vs := by
  obtain ⟨taken, nonempty, rfl⟩ := h
  obtain ⟨more, rfl⟩ := rest
  exact ⟨taken ++ more, fun none => nonempty (List.append_eq_nil_iff.mp none).1,
    (List.append_assoc _ _ _).symm⟩

theorem Behind.suffix (h : Behind ts us) : us <:+ ts := by
  obtain ⟨taken, _, rfl⟩ := h
  exact List.suffix_append _ _

theorem Behind.trans (h : Behind ts us) (more : Behind us vs) : Behind ts vs :=
  h.of_suffix more.suffix

theorem Behind.tail (h : Behind ts (token :: us)) : Behind ts us :=
  h.of_suffix (List.suffix_cons token us)

theorem Behind.length_lt (h : Behind ts us) : us.length < ts.length := by
  obtain ⟨taken, nonempty, rfl⟩ := h
  rw [List.length_append]
  exact Nat.lt_add_of_pos_left (List.length_pos_iff.mpr nonempty)

end Behind

/-- What a routine may leave: the end of its tokens, and all of them only where it reads on
behind an operand.
-/
def Routine.Leaves (routine : Routine) (ts rest : List Token) : Prop :=
  match routine with
  | binaryRest _ => rest <:+ ts
  | percents => rest <:+ ts
  | _ => Behind ts rest

/-- Where a routine may lead: behind some of its tokens, or down to a routine of lower rank. -/
def Routine.LeadsTo (routine : Routine) (ts : List Token) (next : Routine) (us : List Token)
    : Prop :=
  Behind ts us ∨ us = ts ∧ next.rank < routine.rank

namespace Course

variable {routine : Routine} {ts us rest : List Token}

/-- Whatever its calls are answered, a course of a routine calls only where the routine may lead
to, and leaves in the end what the routine may leave.
-/
def Descends (routine : Routine) (ts : List Token) : Course α → Prop
  | .ends outcome => ∀ value rest, outcome = .ok (value, rest) → routine.Leaves ts rest
  | .calls reader us goOn =>
    routine.LeadsTo ts reader.routine us
    ∧ ∀ value rest,
        reader.routine.Leaves us rest → (goOn value rest).Descends routine ts

theorem descends_ok {value : α} (h : routine.Leaves ts rest)
    : (ends (.ok (value, rest))).Descends routine ts := by
  intro _ _ same
  cases same
  exact h

theorem descends_error {e : ParseError}
    : (ends (.error e) : Course α).Descends routine ts := by
  intro _ _ same
  cases same

theorem descends_map {x : Except ParseError α} (h : routine.Leaves ts rest)
    : (ends (x.map (·, rest))).Descends routine ts := by
  cases x with
  | error e => exact descends_error
  | ok value => exact descends_ok h

theorem descends_handsOver {reader : Reader α} (leads : routine.LeadsTo ts reader.routine us)
    (h : ∀ rest, reader.routine.Leaves us rest → routine.Leaves ts rest)
    : (handsOver reader us).Descends routine ts :=
  ⟨leads, fun _ rest left => descends_ok (h rest left)⟩

end Course

/-- A course that starts with the operands of the lowest level goes down to them from above. -/
theorem leadsTo_binary_one {routine : Routine} {ts : List Token} (h : routine.rank ≥ 30)
    : routine.LeadsTo ts (.binary 1) ts :=
  .inr ⟨rfl, Nat.lt_of_lt_of_le (by decide) h⟩

open Course in
/-- Each reader calls only where it may lead to, and leaves what it may leave. -/
theorem course_descends (reader : Reader α) (ts : List Token)
    : (reader.course ts).Descends reader.routine ts := by
  cases reader with
  | binary level =>
    rw [Reader.course]
    split
    · next below =>
      refine ⟨.inr ⟨rfl, ?_⟩, fun first rest left => ?_⟩
      · simp only [Reader.routine, Routine.rank, operandLevel] at below ⊢
        omega
      · exact descends_handsOver (.inl left) fun _ more => left.of_suffix more
    · refine descends_handsOver (.inr ⟨rfl, ?_⟩) fun _ left => left
      simp only [Reader.routine, Routine.rank, operandLevel]
      omega
  | binaryRest level left =>
    rw [Reader.course.eq_def]
    cases ts with
    | nil => exact descends_ok List.suffix_rfl
    | cons token rest =>
      dsimp only
      cases operatorAt? level token with
      | none => exact descends_ok List.suffix_rfl
      | some op =>
        refine ⟨.inl behind_tail, fun right more taken => ?_⟩
        have behind : Behind (token :: rest) more := behind_tail.trans taken
        exact descends_handsOver (.inl behind) fun _ more => (behind.of_suffix more).suffix
  | unary =>
    have operand (us : List Token)
        : (Course.calls .reference us
              fun operand rest => handsOver (.percents operand) rest).Descends .unary us :=
      ⟨.inr ⟨rfl, by decide⟩, fun _ _ left =>
        descends_handsOver (.inl left) fun _ more => left.of_suffix more⟩
    have signed (sign : Token) (op : Expr → Expr) (us : List Token)
        : (Course.calls .unary us
              fun operand rest => .ends (.ok (op operand, rest))).Descends .unary (sign :: us) :=
      ⟨.inl behind_tail, fun _ _ left =>
        descends_ok (behind_tail.trans left)⟩
    rw [Reader.course.eq_def]
    dsimp only
    split
    · exact signed _ _ _
    · exact signed _ _ _
    · exact operand _
  | percents operand =>
    rw [Reader.course.eq_def]
    dsimp only
    split
    · exact descends_handsOver (.inl behind_tail) fun _ left =>
        left.trans (List.suffix_cons _ _)
    · exact descends_ok List.suffix_rfl
  | reference =>
    rw [Reader.course.eq_def]
    refine ⟨.inr ⟨rfl, by decide⟩, fun left rest taken => ?_⟩
    dsimp only
    split
    · exact ⟨.inl taken.tail, fun right rest more => descends_map (taken.tail.trans more)⟩
    · exact descends_ok taken
  | atom =>
    rw [Reader.course.eq_def]
    dsimp only
    split
    · exact descends_ok behind_tail
    · exact descends_ok behind_tail
    · exact descends_ok behind_tail
    · exact descends_ok behind_tail
    · refine ⟨.inl behind_tail, fun first rest taken => ?_⟩
      have behind : Behind (.leftParen :: _) rest := behind_tail.trans taken
      exact descends_handsOver (.inl behind) fun _ more => behind.trans more
    · exact ⟨.inl behind_tail, fun rows rest more => descends_map (behind_tail.trans more)⟩
    · exact descends_map behind_tail.tail
    · exact descends_error
    · exact descends_map behind_tail
    · exact ⟨.inl behind_tail.tail, fun list rest more =>
        descends_ok (behind_tail.tail.trans more)⟩
    · exact descends_ok behind_tail
    · exact descends_error
    · exact descends_error
    · exact descends_error
  | members left =>
    rw [Reader.course.eq_def]
    dsimp only
    split
    · refine ⟨.inl behind_tail, fun right mid taken => ?_⟩
      have behind : Behind (.comma :: _) mid := behind_tail.trans taken
      exact descends_handsOver (.inl behind) fun _ more => behind.trans more
    · exact descends_ok behind_tail
    · exact descends_error
  | elements =>
    rw [Reader.course.eq_def]
    refine ⟨leadsTo_binary_one (Nat.le_refl _), fun first rest taken => ?_⟩
    dsimp only
    split
    · exact ⟨.inl taken.tail, fun _ _ more => descends_ok (taken.tail.trans more)⟩
    · exact ⟨.inl taken.tail, fun _ _ more => descends_ok (taken.tail.trans more)⟩
    · exact descends_ok taken.tail
    · exact descends_error
  | arguments =>
    rw [Reader.course.eq_def]
    dsimp only
    split
    · exact descends_ok behind_tail
    · exact descends_handsOver (.inr ⟨rfl, by decide⟩) fun _ left => left
  | argumentList =>
    rw [Reader.course.eq_def]
    dsimp only
    split
    · exact ⟨.inl behind_tail, fun _ _ left =>
        descends_ok (behind_tail.trans left)⟩
    · exact descends_ok behind_tail
    · refine ⟨leadsTo_binary_one (Nat.le_refl _), fun first rest taken => ?_⟩
      dsimp only
      split
      · exact ⟨.inl taken.tail, fun _ _ more => descends_ok (taken.tail.trans more)⟩
      · exact descends_ok taken.tail
      · exact descends_error

-- Runs

/-- A course comes to an outcome, by as many calls as a derivation has. -/
inductive Course.Yields : {α : Type} → Course α → Outcome α → Prop where
  | ends {α : Type} (outcome : Outcome α) : Yields (.ends outcome) outcome
  | goesOn {α β : Type} {reader : Reader β} {tokens rest : List Token}
      {goOn : β → List Token → Course α} {value : β} {outcome : Outcome α}
      (answered : Yields (reader.course tokens) (.ok (value, rest)))
      (more : Yields (goOn value rest) outcome)
      : Yields (.calls reader tokens goOn) outcome
  | fails {α β : Type} {reader : Reader β} {tokens : List Token}
      {goOn : β → List Token → Course α} {e : ParseError}
      (failed : Yields (reader.course tokens) (.error e))
      : Yields (.calls reader tokens goOn) (.error e)

/-- A course comes to no other outcome than its own, by induction on the run. -/
theorem Course.Yields.eq_outcome {course : Course α} {outcome : Outcome α}
    (run : course.Yields outcome)
    : outcome = course.outcome := by
  induction run with
  | ends => rfl
  | goesOn _ _ answer more => rw [more, Course.outcome, read_eq_outcome, ← answer]
  | fails _ answer => rw [Course.outcome, read_eq_outcome, ← answer]

/-- A reader comes to its outcome, and leaves what it may leave. -/
def Reader.Ends (reader : Reader α) (ts : List Token) : Prop :=
  (reader.course ts).Yields (reader.read ts)
  ∧ ∀ value rest, reader.read ts = .ok (value, rest) → reader.routine.Leaves ts rest

/-- A course comes to its outcome if the readers do that it may lead to, by induction on the
course.
-/
theorem Course.yields_outcome {routine : Routine} {ts : List Token} (course : Course α)
    (descends : course.Descends routine ts)
    (below : ∀ {β : Type} (reader : Reader β) (us : List Token),
      routine.LeadsTo ts reader.routine us → reader.Ends us)
    : course.Yields course.outcome
      ∧ ∀ value rest, course.outcome = .ok (value, rest) → routine.Leaves ts rest := by
  induction course with
  | ends outcome => exact ⟨.ends outcome, descends⟩
  | calls reader us goOn ih =>
    obtain ⟨leads, descends⟩ := descends
    obtain ⟨run, left⟩ := below reader us leads
    rw [Course.outcome]
    cases answer : reader.read us with
    | error e =>
      refine ⟨.fails (answer ▸ run), ?_⟩
      intro value rest same
      cases same
    | ok found =>
      obtain ⟨value, rest⟩ := found
      obtain ⟨more, leaves⟩ := ih value rest (descends value rest (left value rest answer))
      exact ⟨.goesOn (answer ▸ run) more, leaves⟩

/-- Every reader comes to its outcome on all tokens, by induction on them and on the rank. -/
theorem Reader.ends {γ : Type} (reader : Reader γ) (ts : List Token) : reader.Ends ts := by
  rw [Reader.Ends, read_eq_outcome]
  exact (reader.course ts).yields_outcome (course_descends reader ts) fun next us leads =>
    next.ends us
termination_by (ts.length, reader.routine.rank)
decreasing_by
  rcases leads with behind | ⟨rfl, lower⟩
  · exact .left _ _ behind.length_lt
  · exact .right _ lower

theorem Reader.yields_iff {reader : Reader α} {ts : List Token} {outcome : Outcome α}
    : (reader.course ts).Yields outcome ↔ outcome = reader.read ts := by
  constructor
  · intro run
    rw [run.eq_outcome, read_eq_outcome]
  · rintro rfl
    exact (reader.ends ts).1

-- Calls

/-- A reader on some tokens. -/
structure Call : Type 1 where
  {value : Type}
  reader : Reader value
  tokens : List Token

/-- A course makes a call, at once or when those before it were answered. -/
inductive Course.Makes : Course α → Call → Prop where
  | now {β : Type} {reader : Reader β} {tokens : List Token}
      {goOn : β → List Token → Course α}
      : Makes (.calls reader tokens goOn) ⟨reader, tokens⟩
  | later {β : Type} {reader : Reader β} {tokens rest : List Token}
      {goOn : β → List Token → Course α} {value : β} {call : Call}
      (answer : reader.read tokens = .ok (value, rest)) (more : Makes (goOn value rest) call)
      : Makes (.calls reader tokens goOn) call

/-- A call makes another one. -/
def Call.Makes (c d : Call) : Prop :=
  (c.reader.course c.tokens).Makes d

/-- The routine of a call. -/
def Call.routine (c : Call) : Routine :=
  c.reader.routine

theorem Course.Makes.leadsTo {routine : Routine} {ts : List Token} {course : Course α} {d : Call}
    (made : course.Makes d) (descends : course.Descends routine ts)
    : routine.LeadsTo ts d.routine d.tokens := by
  induction made with
  | now => exact descends.1
  | later answer _ ih => exact ih (descends.2 _ _ ((Reader.ends _ _).2 _ _ answer))

theorem Routine.LeadsTo.trans {a b c : Routine} {ts us vs : List Token} (first : a.LeadsTo ts b us)
    (second : b.LeadsTo us c vs)
    : a.LeadsTo ts c vs := by
  rcases first with behind | ⟨rfl, lower⟩
  · rcases second with more | ⟨rfl, _⟩
    · exact .inl (behind.trans more)
    · exact .inl behind
  · rcases second with more | ⟨rfl, lowest⟩
    · exact .inl more
    · exact .inr ⟨rfl, Nat.lt_trans lowest lower⟩

/-- Calls of calls lead behind a token or to a lower rank, by induction on the chain of calls. -/
theorem Call.leadsTo {c d : Call} (chain : Relation.TransGen Call.Makes c d)
    : c.routine.LeadsTo c.tokens d.routine d.tokens := by
  have step {c d : Call} (made : c.Makes d) : c.routine.LeadsTo c.tokens d.routine d.tokens :=
    Course.Makes.leadsTo made (course_descends c.reader c.tokens)
  induction chain with
  | single made => exact step made
  | tail _ made ih => exact ih.trans (step made)

/-- No routine comes back to itself on the same tokens. -/
theorem Call.behind_of_cycle {c d : Call} (chain : Relation.TransGen Call.Makes c d)
    (cycle : d.routine = c.routine)
    : Behind c.tokens d.tokens := by
  rcases Call.leadsTo chain with behind | ⟨_, lower⟩
  · exact behind
  · exact absurd (cycle ▸ lower) (Nat.lt_irrefl _)

end Parse

open Parse in
/-- How a text is read as a formula, with the run of the readers it takes. -/
inductive Expr.Parses (text : String) : Except ParseError Expr → Prop where
  | noEqualsSign (none : ∀ cs, Unicode.trim text.toList ≠ '=' :: cs)
      : Parses text (.error .noEqualsSign)
  | whole {cs : List Char} {e : Expr} (starts : Unicode.trim text.toList = '=' :: cs)
      (run : ((Reader.binary 1).course (Token.scanAll cs)).Yields (.ok (e, [])))
      : Parses text (.ok e)
  | trailing {cs : List Char} {e : Expr} {token : Token} {rest : List Token}
      (starts : Unicode.trim text.toList = '=' :: cs)
      (run : ((Reader.binary 1).course (Token.scanAll cs)).Yields (.ok (e, token :: rest)))
      : Parses text (.error (.trailing token))
  | fails {cs : List Char} {e : ParseError} (starts : Unicode.trim text.toList = '=' :: cs)
      (run : ((Reader.binary 1).course (Token.scanAll cs)).Yields (.error e))
      : Parses text (.error e)

/-- What a formula comes to is what its readers come to. -/
theorem Parse.formula_eq (ts : List Token)
    : formula ts = match (Reader.binary 1).read ts with
        | .ok (e, []) => .ok e
        | .ok (_, token :: _) => .error (.trailing token)
        | .error e => .error e := by
  rw [formula, Reader.read]
  cases binary 1 ts with
  | error e => rfl
  | ok found =>
    obtain ⟨value, rest, short⟩ := found
    cases rest <;> rfl

theorem Expr.parse_of_equalsSign {text : String} {cs : List Char}
    (starts : Unicode.trim text.toList = '=' :: cs)
    : parse text = Parse.formula (Token.scanAll cs) := by
  rw [parse, starts]
  rfl

/-- A text is read in exactly one way, and with the outcome of the parser. -/
theorem Expr.parses_iff {text : String} {outcome : Except ParseError Expr}
    : Parses text outcome ↔ outcome = parse text := by
  constructor
  · intro parses
    cases parses with
    | noEqualsSign none =>
      rw [parse]
      split
      · next starts => exact absurd starts (none _)
      · rfl
    | whole starts run =>
      rw [parse_of_equalsSign starts, Parse.formula_eq, ← Parse.Reader.yields_iff.mp run]
    | trailing starts run =>
      rw [parse_of_equalsSign starts, Parse.formula_eq, ← Parse.Reader.yields_iff.mp run]
    | fails starts run =>
      rw [parse_of_equalsSign starts, Parse.formula_eq, ← Parse.Reader.yields_iff.mp run]
  · rintro rfl
    rw [parse]
    split
    · next cs starts =>
      rw [Parse.formula_eq]
      split
      · next read => exact .whole starts (Parse.Reader.yields_iff.mpr read.symm)
      · next read => exact .trailing starts (Parse.Reader.yields_iff.mpr read.symm)
      · next read => exact .fails starts (Parse.Reader.yields_iff.mpr read.symm)
    · next none => exact .noEqualsSign fun cs starts => none cs starts

open Parse Token in
/-- The scanner comes forward from every place of a text or finds its end, so that a text has no
more tokens than characters; the parser comes back to a routine only behind a token; its readers
come to an outcome on all tokens; and every text is read as a formula or refused.
-/
theorem Expr.reading_ends (text : String)
    : (∀ p : text.Pos,
          (scan? (remaining p) = none
              ∧ scanAll (remaining p) = []
              ∧ ∀ c ∈ remaining p, Unicode.isWhiteSpace c)
          ∨ ∃ token, ∃ q : text.Pos,
              p < q
              ∧ scan? (remaining p) = some (token, remaining q)
              ∧ scanAll (remaining p) = token :: scanAll (remaining q))
      ∧ (scanAll (remaining text.startPos)).length ≤ text.length
      ∧ (∀ c d : Call,
          Relation.TransGen Call.Makes c d → d.routine = c.routine → Behind c.tokens d.tokens)
      ∧ (∀ (α : Type) (reader : Reader α) ts, (reader.course ts).Yields (reader.read ts))
      ∧ ∀ outcome, Parses text outcome ↔ outcome = parse text := by
  refine ⟨scan?_remaining, ?_, fun c d => Call.behind_of_cycle,
    fun α reader ts => (reader.ends ts).1, fun outcome => parses_iff⟩
  rw [remaining_startPos, ← String.length_toList]
  exact length_scanAll_le text.toList

open Parse in
/-- What stands in parentheses is read by the routine that has come to them. -/
theorem Expr.reading_ends_in_parentheses
    : Relation.TransGen Call.Makes
          ⟨.binary 1, [.leftParen, .boolean true, .rightParen]⟩
          ⟨.binary 1, [.boolean true, .rightParen]⟩
      ∧ Behind [.leftParen, .boolean true, .rightParen] [.boolean true, .rightParen] := by
  let ts : List Token := [.leftParen, .boolean true, .rightParen]
  have down {level : Nat} (below : level < operandLevel)
      : Call.Makes ⟨.binary level, ts⟩ ⟨.binary (level + 1), ts⟩ := by
    rw [Call.Makes, Reader.course, if_pos below]
    exact .now
  have toUnary : Call.Makes ⟨.binary operandLevel, ts⟩ ⟨.unary, ts⟩ := Course.Makes.now
  have toReference : Call.Makes ⟨.unary, ts⟩ ⟨.reference, ts⟩ := Course.Makes.now
  have toAtom : Call.Makes ⟨.reference, ts⟩ ⟨.atom, ts⟩ := Course.Makes.now
  have inside : Call.Makes ⟨.atom, ts⟩ ⟨.binary 1, [.boolean true, .rightParen]⟩ :=
    Course.Makes.now
  have chain : Relation.TransGen Call.Makes ⟨.binary 1, ts⟩
      ⟨.binary 1, [.boolean true, .rightParen]⟩ :=
    .head (down (by decide)) (.head (down (by decide)) (.head (down (by decide))
      (.head (down (by decide)) (.head (down (by decide)) (.head toUnary (.head toReference
        (.head toAtom (.single inside))))))))
  exact ⟨chain, (Expr.reading_ends "=(TRUE)").2.2.1 _ _ chain rfl⟩

end Spreadsheet
