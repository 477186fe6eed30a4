import Condition.Evaluation

/-! # Reductions of operators

A chain of operators is walked along its left edge, but an operator with its operands reduces as if
the left operand were reduced by itself (`reduce_binary`).

* `result_reduce_binary`: the operator and its operands, where the reduction succeeds.
* `reduces_of_mem_nodes`: where a whole expression reduces, so does every operator in it. -/

namespace Condition

/-! ### Results with their events -/

namespace Journaled

variable {ε δ α β : Type}

theorem result_bind_eq_ok {x : Journaled ε α} {f : α → Journaled ε β} {b : β} :
    (x >>= f).result = .ok b ↔ ∃ a, x.result = .ok a ∧ (f a).result = .ok b := by
  change (x.andThen f).result = .ok b ↔ _
  unfold andThen
  cases hx : x.result with
  | error e => simp
  | ok a => simp

theorem result_mapError_eq_ok {x : Journaled ε α} {f : ε → δ} {a : α} :
    (x.mapError f).result = .ok a ↔ x.result = .ok a := by
  unfold mapError
  cases hx : x.result with
  | error e =>
    change Except.error (f e) = .ok a ↔ Except.error e = .ok a
    simp only [reduceCtorEq]
  | ok b =>
    change Except.ok b = .ok a ↔ Except.ok b = .ok a
    simp only [Except.ok.injEq]

end Journaled

namespace Expr

open Journaled

theorem result_settled_eq_ok {α : Type} {result : Except Evaluation.Error α} {a : α} :
    (settled result).result = .ok a ↔ result = .ok a := by
  change ((Journaled.ofExcept result).mapError Failure.ofCause).result = .ok a ↔ _
  exact result_mapError_eq_ok

theorem truthValue_eq_ok {found : Except Evaluation.Error Bool} {v : Literal} :
    Literal.boolean <$> found = .ok v ↔ ∃ t, found = .ok t ∧ v = .boolean t := by
  cases found with
  | error e => simp [Functor.map, Except.map]
  | ok t => simp [Functor.map, Except.map, eq_comm]

variable [Pattern.Engine] {Q : Type}

/-! ### Steps and nodes -/

/-- Where the right operand is no pattern for the operator, it is reduced too. -/
theorem result_applyStep {op : Operator} {a v : Literal} {right : Expr Q}
    {reduced : Outcome Literal}
    (h : patternFor? op right = none) : (applyStep op a right reduced).result = .ok v ↔
      ∃ b t, reduced.result = .ok b ∧ Literal.apply op a b = .ok t ∧ v = .boolean t := by
  unfold applyStep
  rw [h]
  dsimp only
  rw [result_bind_eq_ok]
  refine exists_congr fun b => ?_
  rw [result_settled_eq_ok, truthValue_eq_ok]
  exact exists_and_left.symm

/-- The operators of an expression with their operands, also those in groups. -/
def nodes : Expr Q → List (Operator × Expr Q × Expr Q)
  | .binary op left right => (op, left, right) :: (nodes left ++ nodes right)
  | .group inner => nodes inner
  | _ => []

theorem patternFor?_eq_some {op : Operator} {right : Expr Q} {p : Pattern}
    (h : patternFor? op right = some p) : right = .pattern p ∧ op.takesPattern = true := by
  cases right with
  | pattern q =>
    simp only [patternFor?] at h
    split at h
    · cases h
      exact ⟨rfl, ‹_›⟩
    · cases h
  | _ => cases h

/-- Only an operator for patterns has one on its right. -/
theorem patternFor?_of_takesPattern {op : Operator} (h : op.takesPattern = false) (right : Expr Q) :
    patternFor? op right = none := by
  cases right with
  | pattern p => exact if_neg (by rw [h]; decide)
  | _ => rfl

theorem nodes_of_patternFor? {op : Operator} {right : Expr Q} {p : Pattern}
    (h : patternFor? op right = some p) : nodes right = [] := by
  obtain ⟨rfl, -⟩ := patternFor?_eq_some h
  rfl

/-! ### Operators along the left edge -/

variable [Query.Runnable Q] {args : Args}

/-- An operator applied to a literal and its right operand, with its error. -/
def applied (args : Args) (op : Operator) (left : Literal) (right : Expr Q) : Outcome Literal :=
  (applyStep op left right (reduce args right)).mapError (Failure.within op)

theorem reduceSteps_nil (left : Literal) : reduceSteps args left ([] : Steps Q) = pure left := by
  rw [reduceSteps]

theorem reduceSteps_cons (left : Literal) (op : Operator) (right : Expr Q) (steps : Steps Q) :
    reduceSteps args left ((op, right) :: steps) =
      applied args op left right >>= fun next => reduceSteps args next steps := by
  rw [reduceSteps]
  rfl

/-- **The walk along the left edge** of an operand does what the reduction of that operand does,
and goes on with the steps behind it. -/
theorem reduce_spineOnto (steps : Steps Q) (e : Expr Q) :
    (reduce args (spineOnto steps e).1 >>= fun first =>
        reduceSteps args first (spineOnto steps e).2) =
      reduce args e >>= fun left => reduceSteps args left steps := by
  induction e generalizing steps with
  | binary op left right ih =>
    have hwalk : reduce args (.binary op left right) =
        reduce args left >>= fun a => reduceSteps args a [(op, right)] := by
      rw [reduce]
      exact ih [(op, right)]
    rw [spineOnto, ih, hwalk, bind_assoc]
    refine congrArg _ (funext fun a => ?_)
    simp only [reduceSteps_cons, reduceSteps_nil, bind_assoc, pure_bind]
  | _ => rfl

/-- **An operator** reduces its left operand, and then applies to it. -/
theorem reduce_binary (args : Args) (op : Operator) (left right : Expr Q) :
    reduce args (.binary op left right) =
      reduce args left >>= fun a => applied args op a right := by
  rw [reduce]
  refine (reduce_spineOnto [(op, right)] left).trans (congrArg _ (funext fun a => ?_))
  simp only [reduceSteps_cons, reduceSteps_nil, bind_pure]

theorem result_reduce_binary {op : Operator} {left right : Expr Q} {v : Literal} :
    (reduce args (.binary op left right)).result = .ok v ↔
      ∃ a, (reduce args left).result = .ok a ∧
        (applyStep op a right (reduce args right)).result = .ok v := by
  rw [reduce_binary, result_bind_eq_ok]
  refine exists_congr fun a => and_congr_right fun _ => ?_
  exact result_mapError_eq_ok

/-! ### All operators of an expression -/

theorem reduce_group (inner : Expr Q) : reduce args (.group inner) = reduce args inner := by
  rw [reduce]

/-- **Nothing is skipped**: where a whole expression reduces, every operator in it does. -/
theorem reduces_of_mem_nodes {e : Expr Q} {v : Literal} (h : (reduce args e).result = .ok v)
    {op : Operator} {left right : Expr Q} (hm : (op, left, right) ∈ nodes e) :
    ∃ w, (reduce args (.binary op left right)).result = .ok w := by
  induction e generalizing v with
  | binary other first last ihf ihl =>
    rcases List.mem_cons.1 hm with he | hm
    · cases he
      exact ⟨v, h⟩
    · obtain ⟨a, hf, hs⟩ := result_reduce_binary.1 h
      rcases List.mem_append.1 hm with hm | hm
      · exact ihf hf hm
      · cases hp : patternFor? other last with
        | some p =>
          rw [nodes_of_patternFor? hp] at hm
          cases hm
        | none =>
          obtain ⟨b, t, hb, -, -⟩ := (result_applyStep hp).1 hs
          exact ihl hb hm
  | group inner ih =>
    rw [reduce_group] at h
    exact ih h hm
  | _ => cases hm

end Expr
end Condition
