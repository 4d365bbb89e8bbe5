import Spreadsheet.Proofs.Evaluation.Termination
import Spreadsheet.Proofs.Formula.LeftUnions

/-! Unions have the areas of their members one behind the other, whatever way they are grouped: a
run over the members from left to right comes to the same as the unions inside one another.
-/

namespace Spreadsheet

namespace Expr

variable {names : String → Evaluation Value} {ctx : Context} {e s t left right : Expr}

/-- Collecting areas, which an error value ends, unless there is no value at all. -/
abbrev Collecting := ExceptT CellError Evaluation

/-- The value of a union in terms of its areas. -/
def ofAreas : Except CellError (List (Area Value)) → Value
  | .ok areas => .union areas
  | .error e => .error e

theorem areasOf_ofAreas (outcome : Except CellError (List (Area Value)))
    : areasOf (ofAreas outcome) = outcome := by
  cases outcome with
  | ok areas => rfl
  | error e => rfl

/-- The areas of a member of a union. -/
def collectMember (names : String → Evaluation Value) (ctx : Context) (member : Expr)
    : Collecting (List (Area Value)) :=
  ExceptT.mk (memberAreas ctx member fun _ => member.eval names ctx)

/-- The areas of some members, one member behind the other. -/
def collectMembers (names : String → Evaluation Value) (ctx : Context) (members : List Expr)
    : Collecting (List (Area Value)) := do
  return (← members.mapM (collectMember names ctx)).flatten

theorem collectMembers_append (members more : List Expr)
    : collectMembers names ctx (members ++ more) = do
        return (← collectMembers names ctx members) ++ (← collectMembers names ctx more) := by
  rw [collectMembers, collectMembers, collectMembers, List.mapM_append]
  simp only [bind_assoc, pure_bind, List.flatten_append]

theorem collectMembers_single (member : Expr)
    : collectMembers names ctx [member] = collectMember names ctx member := by
  rw [collectMembers, List.mapM_cons, List.mapM_nil]
  simp only [bind_assoc, pure_bind, List.flatten_cons, List.flatten_nil, List.append_nil, bind_pure]

/-- The left operand of a union is collected first, and an error there ends it. -/
theorem eval_union
    : (union left right).eval names ctx
      = (do return (← collectMember names ctx left) ++ (← collectMember names ctx right)).run.map
        ofAreas := by
  rw [eval, collectMember, collectMember]
  generalize (memberAreas ctx left fun _ => left.eval names ctx) = first
  generalize (memberAreas ctx right fun _ => right.eval names ctx) = second
  rcases first with failure | e | areas
  · rfl
  · rfl
  · rcases second with failure | e | more
    · rfl
    · rfl
    · rfl

/-- A union that is a member of another one passes on what it has collected, by induction on the
members.
-/
theorem collectMember_eq (e : Expr)
    : collectMember names ctx e = collectMembers names ctx e.unionMembers := by
  induction e using unionMembers.induct with
  | case1 left right ihLeft ihRight =>
    have passed (outcome : Evaluation (Except CellError (List (Area Value))))
        : (outcome.map ofAreas).map areasOf = outcome := by
      cases outcome with
      | error failure => rfl
      | ok outcome => exact congrArg Except.ok (areasOf_ofAreas outcome)
    -- As a member, a union is a value once more, from which its areas are taken again.
    rw [unionMembers, collectMembers_append, ← ihLeft, ← ihRight]
    change ExceptT.mk (((union left right).eval names ctx).map areasOf) = _
    rw [eval_union, passed]
    rfl
  | case2 e noUnion =>
    rw [unionMembers_of_not_isUnion (isUnion_eq_false noUnion), collectMembers_single]

/-- A union has the value that the run over its members comes to. -/
theorem eval_eq_collectMembers (union : e.isUnion)
    : e.eval names ctx = (collectMembers names ctx e.unionMembers).run.map ofAreas := by
  cases e with
  | union left right =>
    rw [eval_union, unionMembers, collectMembers_append, collectMember_eq, collectMember_eq]
  | _ => cases union

theorem one_lt_length_unionMembers (union : e.isUnion) : 1 < e.unionMembers.length := by
  have pos (e : Expr) : 0 < e.unionMembers.length := by
    induction e using unionMembers.induct with
    | case1 left right ihLeft ihRight =>
      rw [unionMembers, List.length_append]
      omega
    | case2 e noUnion =>
      rw [unionMembers_of_not_isUnion (isUnion_eq_false noUnion)]
      exact Nat.one_pos
  cases e with
  | union left right =>
    have := pos left
    have := pos right
    rw [unionMembers, List.length_append]
    omega
  | _ => cases union

/-- The members of a formula tell whether it is a union. -/
theorem isUnion_congr (same : s.unionMembers = t.unionMembers) (union : s.isUnion) : t.isUnion := by
  cases single : t.isUnion with
  | true => rfl
  | false =>
    have several := one_lt_length_unionMembers union
    rw [same, unionMembers_of_not_isUnion single] at several
    exact absurd several (Nat.lt_irrefl 1)

/-- Formulas with the same members have the same value. -/
theorem eval_congr_unionMembers (same : s.unionMembers = t.unionMembers)
    : s.eval names ctx = t.eval names ctx := by
  cases union : s.isUnion with
  | true =>
    rw [eval_eq_collectMembers union, eval_eq_collectMembers (isUnion_congr same union), same]
  | false =>
    have single : t.isUnion = false :=
      Bool.eq_false_iff.mpr fun other => Bool.eq_false_iff.mp union (isUnion_congr same.symm other)
    rw [unionMembers_of_not_isUnion union, unionMembers_of_not_isUnion single] at same
    rw [List.singleton_inj.mp same]

-- All unions of a formula grouped to the left

theorem collectMember_of_isUnion (union : e.isUnion)
    : collectMember names ctx e = ExceptT.mk ((e.eval names ctx).map areasOf) := by
  cases e with
  | union left right => rfl
  | _ => cases union

theorem collectMember_leftUnions (same : e.leftUnions.eval names ctx = e.eval names ctx)
    : collectMember names ctx e.leftUnions = collectMember names ctx e := by
  cases e with
  | union left right =>
    rw [collectMember_of_isUnion (isUnion_leftUnions _), collectMember_of_isUnion rfl, same]
  | cell sheet a => rfl
  | range sheet r => rfl
  | _ => exact congrArg (fun value => ExceptT.mk (value.map areasOf)) same

/-- Grouping all unions to the left does not change the value, by induction on the formula. -/
theorem eval_leftUnions (e : Expr) : e.leftUnions.eval names ctx = e.eval names ctx := by
  induction e using induction_children with
  | step e ih =>
    have listed (es : List Expr) (below : ∀ child ∈ es, child ∈ e.children)
        : evalList names ctx (es.map leftUnions) = evalList names ctx es := by
      rw [evalList_eq_mapM, evalList_eq_mapM, List.mapM_map]
      exact mapM_congr fun child mem => ih child (below child mem)
    cases e with
    | union left right =>
      have grouped : (uniteLeft left.leftUnions right.leftUnions).eval names ctx
          = (union left.leftUnions right.leftUnions).eval names ctx :=
        eval_congr_unionMembers (unionMembers_uniteLeft _ _)
      rw [leftUnions, grouped, eval_union, eval_union,
        collectMember_leftUnions (ih left (by simp [children])),
        collectMember_leftUnions (ih right (by simp [children]))]
    | binary op left right =>
      rw [leftUnions, eval, eval, ih left (by simp [children]), ih right (by simp [children])]
    | unary op operand => rw [leftUnions, eval, eval, ih operand (by simp [children])]
    | call f arguments =>
      rw [leftUnions, eval, eval, leftUnionsList_eq_map, List.length_map,
        listed arguments fun child mem => mem]
    | array rows =>
      have table : evalRows names ctx (rows.map fun row => row.map leftUnions)
          = evalRows names ctx rows := by
        rw [evalRows_eq_mapM, evalRows_eq_mapM, List.mapM_map]
        refine mapM_congr fun row inRows => ?_
        have inRow := listed row fun child mem => List.mem_flatten.mpr ⟨row, inRows, mem⟩
        rw [evalList_eq_mapM, evalList_eq_mapM] at inRow
        rw [Function.comp_apply, inRow]
      rw [leftUnions, eval, eval, leftUnionsRows_eq_map, table]
    | _ => rfl

end Expr

namespace Context

/-- Unions of the same members have the same value, error value or failure, whatever way they are
grouped. A formula can therefore be written without the grouping of its unions: read back with all
of them grouped to the left, it still has its value.
-/
theorem evaluate_union_regrouped (ctx : Context) (depth : Nat)
    : (∀ s t : Expr, s.unionMembers = t.unionMembers →
        ctx.evaluateWithin depth s = ctx.evaluateWithin depth t)
      ∧ ∀ e : Expr, ctx.evaluateWithin depth e.leftUnions = ctx.evaluateWithin depth e :=
  ⟨fun _ _ same => Expr.eval_congr_unionMembers same, fun e => Expr.eval_leftUnions e⟩

/-- Three members of which the second one shows an error: the third one is not looked at. -/
theorem evaluate_union_regrouped_three
    : let a : Expr := .cell none { row := 0, col := 0 }
      let failing : Expr := .call "NOSUCH" []
      (Expr.union (.union a (.error .na)) failing).unionMembers
          = (Expr.union a (.union (.error .na) failing)).unionMembers
        ∧ ∀ (ctx : Context) (depth : Nat),
          ctx.evaluateWithin depth (.union (.union a (.error .na)) failing)
            = ctx.evaluateWithin depth (.union a (.union (.error .na) failing)) := by
  intro a failing
  have same : (Expr.union (.union a (.error .na)) failing).unionMembers
      = (Expr.union a (.union (.error .na) failing)).unionMembers := rfl
  exact ⟨same, fun ctx depth => (evaluate_union_regrouped ctx depth).1 _ _ same⟩

end Context

end Spreadsheet
