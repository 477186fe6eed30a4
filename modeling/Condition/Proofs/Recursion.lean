import Condition.Check
import Condition.Proofs.Reduction

/-! # Reduction by recursion

An expression reduces as the recursion on its tree says (`reduceTree`), whatever the length of its
chains of operators and wherever these stand. Where the reduction fails, one step is the first to
fail (`StopsAt`), and the error carries the operators of which that step is a part: those above it
that are not entered by their left operand, each once.

* `reduce_eq_reduceTree`: the walk along left edges is the recursion, events included.
* `result_reduceTree_eq_error_iff`: the error of a reduction, with its contexts.
* `reduce_by_recursion`: both together, and what an operator makes of the results of its
  operands. -/

namespace Condition

/-! ### Results that are errors -/

namespace Journaled

variable {ε δ α β : Type}

theorem result_mapError (x : Journaled ε α) (f : ε → δ) :
    (x.mapError f).result = x.result.mapError f := rfl

theorem result_bind_eq_error {x : Journaled ε α} {f : α → Journaled ε β} {e : ε} :
    (x >>= f).result = .error e ↔
      x.result = .error e ∨ ∃ a, x.result = .ok a ∧ (f a).result = .error e := by
  change (x.andThen f).result = .error e ↔ _
  unfold andThen
  cases hx : x.result with
  | error e' => simp
  | ok a => simp

end Journaled

namespace Expr

open Journaled

theorem result_settled_eq_error {α : Type} {result : Except Evaluation.Error α}
    {failure : Failure Operator Evaluation.Error} :
    (settled result).result = .error failure ↔
      ∃ cause, result = .error cause ∧ failure = ⟨[], cause⟩ := by
  change result.mapError Failure.ofCause = .error failure ↔ _
  cases result with
  | ok a =>
    change Except.ok a = .error failure ↔ _
    simp
  | error cause =>
    change Except.error (Failure.ofCause cause) = .error failure ↔ _
    simp [Failure.ofCause, eq_comm]

theorem result_within_eq_error {x : Outcome Literal} {op : Operator}
    {failure : Failure Operator Evaluation.Error} :
    (x.mapError (Failure.within op)).result = .error failure ↔
      ∃ ops, failure.contexts = op :: ops ∧ x.result = .error ⟨ops, failure.cause⟩ := by
  obtain ⟨contexts, cause⟩ := failure
  rw [result_mapError]
  cases x.result with
  | ok v =>
    change Except.ok v = .error _ ↔ _
    simp
  | error inner =>
    obtain ⟨ops, cause'⟩ := inner
    change Except.error (Failure.within op ⟨ops, cause'⟩) = .error _ ↔ _
    simp only [Failure.within, Except.error.injEq, Failure.mk.injEq]
    constructor
    · rintro ⟨rfl, rfl⟩
      exact ⟨ops, rfl, rfl, rfl⟩
    · rintro ⟨ops', rfl, rfl, rfl⟩
      exact ⟨rfl, rfl⟩

variable [Pattern.Engine] {Q : Type}

/-- A step whose right operand is no pattern fails where that operand does, or the operator on both
literals. -/
theorem result_applyStep_eq_error {op : Operator} {a : Literal} {right : Expr Q}
    {reduced : Outcome Literal} {failure : Failure Operator Evaluation.Error}
    (hp : patternFor? op right = none) :
    (applyStep op a right reduced).result = .error failure ↔
      reduced.result = .error failure ∨ ∃ b cause, reduced.result = .ok b ∧
        Literal.apply op a b = .error cause ∧ failure = ⟨[], cause⟩ := by
  unfold applyStep
  rw [hp]
  dsimp only
  rw [result_bind_eq_error]
  refine or_congr_right (exists_congr fun b => ?_)
  rw [result_settled_eq_error]
  cases Literal.apply op a b <;> simp [Functor.map, Except.map]

theorem result_applyStep_pattern_eq_error {op : Operator} {a : Literal} {right : Expr Q}
    {p : Pattern} {reduced : Outcome Literal} {failure : Failure Operator Evaluation.Error}
    (hp : patternFor? op right = some p) :
    (applyStep op a right reduced).result = .error failure ↔
      ∃ cause, applyPattern op a p = .error cause ∧ failure = ⟨[], cause⟩ := by
  unfold applyStep
  rw [hp]
  exact result_settled_eq_error

variable [Query.Runnable Q] {args : Args}

/-! ### The recursion -/

/-- **The literal of an expression by recursion on its tree**: an operator reduces its left operand,
then applies to that literal and the right operand, and an error of the second step is one in the
context of the operator. -/
def reduceTree (args : Args) : Expr Q → Outcome Literal
  | .binary op left right =>
    reduceTree args left >>= fun a =>
      (applyStep op a right (reduceTree args right)).mapError (Failure.within op)
  | .group inner => reduceTree args inner
  | .name text => settled (resolve args text)
  | .string text => pure (.string text)
  | .pattern p => pure (.string p.source)
  | .number d => pure (.number d)
  | .boolean b => pure (.boolean b)
  | .strings items => pure (.strings items)
  | .numbers items => pure (.numbers items)
  | .subQuery source mode query => answerOf args source mode query

/-- **The walk along left edges is the recursion.** -/
theorem reduce_eq_reduceTree (args : Args) (e : Expr Q) : reduce args e = reduceTree args e := by
  induction e with
  | binary op left right ihl ihr =>
    rw [reduce_binary, ihl, reduceTree]
    refine congrArg _ (funext fun a => ?_)
    rw [applied, ihr]
  | group inner ih => rw [reduce_group, ih, reduceTree]
  | _ => rw [reduce, reduceTree]

/-- An operator passes an error of its left operand on, and adds itself to an error of its own
step. -/
theorem result_reduce_binary_eq (op : Operator) (left right : Expr Q) :
    (reduce args (.binary op left right)).result =
      match (reduce args left).result with
      | .error failure => .error failure
      | .ok a =>
        match (applyStep op a right (reduce args right)).result with
        | .error failure => .error ⟨op :: failure.contexts, failure.cause⟩
        | .ok v => .ok v := by
  rw [reduce_binary]
  change (Journaled.andThen (reduce args left) _).result = _
  unfold andThen
  cases (reduce args left).result with
  | error failure => rfl
  | ok a =>
    dsimp only
    rw [applied, result_mapError]
    cases (applyStep op a right (reduce args right)).result with
    | error failure => rfl
    | ok v => rfl

/-! ### Where a reduction stops -/

/-- **Where a reduction stops**: the first step that fails, from left to right, with the operators
of which it is a part, the outermost first, and its error. A step in a left operand is no part of
the operator, one in a right operand is. -/
inductive StopsAt (args : Args) : Expr Q → List Operator → Evaluation.Error → Prop where
  | name {text : Text} {cause : Evaluation.Error} (h : resolve args text = .error cause) :
    StopsAt args (.name text) [] cause
  | subQuery {source : Text} {mode : Query.Mode} {query : Q} {cause : Evaluation.Error}
    (h : Literal.collapse source mode (Query.Runnable.run query (Args.toJson args)) =
      .error cause) :
    StopsAt args (.subQuery source mode query) [] cause
  | group {inner : Expr Q} {ops : List Operator} {cause : Evaluation.Error}
    (h : StopsAt args inner ops cause) : StopsAt args (.group inner) ops cause
  | left {op : Operator} {left right : Expr Q} {ops : List Operator} {cause : Evaluation.Error}
    (h : StopsAt args left ops cause) : StopsAt args (.binary op left right) ops cause
  | right {op : Operator} {left right : Expr Q} {a : Literal} {ops : List Operator}
    {cause : Evaluation.Error} (ha : (reduceTree args left).result = .ok a)
    (hp : patternFor? op right = none) (h : StopsAt args right ops cause) :
    StopsAt args (.binary op left right) (op :: ops) cause
  | operator {op : Operator} {left right : Expr Q} {a b : Literal} {cause : Evaluation.Error}
    (ha : (reduceTree args left).result = .ok a) (hp : patternFor? op right = none)
    (hb : (reduceTree args right).result = .ok b) (h : Literal.apply op a b = .error cause) :
    StopsAt args (.binary op left right) [op] cause
  | pattern {op : Operator} {left right : Expr Q} {a : Literal} {p : Pattern}
    {cause : Evaluation.Error} (ha : (reduceTree args left).result = .ok a)
    (hp : patternFor? op right = some p) (h : applyPattern op a p = .error cause) :
    StopsAt args (.binary op left right) [op] cause

theorem stopsAt_of_result {e : Expr Q} {ops : List Operator} {cause : Evaluation.Error}
    (h : (reduceTree args e).result = .error ⟨ops, cause⟩) : StopsAt args e ops cause := by
  induction e generalizing ops with
  | binary op left right ihl ihr =>
    rcases result_bind_eq_error.1 h with h | ⟨a, ha, h⟩
    · exact .left (ihl h)
    · obtain ⟨inner, rfl, h⟩ := result_within_eq_error.1 h
      cases hp : patternFor? op right with
      | some p =>
        obtain ⟨_, h, he⟩ := (result_applyStep_pattern_eq_error hp).1 h
        cases he
        exact .pattern ha hp h
      | none =>
        rcases (result_applyStep_eq_error hp).1 h with h | ⟨b, _, hb, h, he⟩
        · exact .right ha hp (ihr h)
        · cases he
          exact .operator ha hp hb h
  | group inner ih => exact .group (ih h)
  | name text =>
    obtain ⟨_, h, he⟩ := result_settled_eq_error.1 h
    cases he
    exact .name h
  | subQuery source mode query =>
    rcases result_bind_eq_error.1 h with h | ⟨_, -, h⟩
    · cases h
    · obtain ⟨_, h, he⟩ := result_settled_eq_error.1 h
      cases he
      exact .subQuery h
  | _ => cases h

/-- An error of the step behind a left operand is one in the context of the operator. -/
theorem result_reduceTree_step {op : Operator} {left right : Expr Q} {a : Literal}
    {ops : List Operator} {cause : Evaluation.Error} (ha : (reduceTree args left).result = .ok a)
    (h : (applyStep op a right (reduceTree args right)).result = .error ⟨ops, cause⟩) :
    (reduceTree args (.binary op left right)).result = .error ⟨op :: ops, cause⟩ :=
  result_bind_eq_error.2 (.inr ⟨a, ha, result_within_eq_error.2 ⟨ops, rfl, h⟩⟩)

theorem result_of_stopsAt {e : Expr Q} {ops : List Operator} {cause : Evaluation.Error}
    (h : StopsAt args e ops cause) : (reduceTree args e).result = .error ⟨ops, cause⟩ := by
  induction h with
  | name h => exact result_settled_eq_error.2 ⟨_, h, rfl⟩
  | subQuery h =>
    exact result_bind_eq_error.2 (.inr ⟨(), rfl, result_settled_eq_error.2 ⟨_, h, rfl⟩⟩)
  | group _ ih => exact ih
  | left _ ih => exact result_bind_eq_error.2 (.inl ih)
  | right ha hp _ ih =>
    refine result_reduceTree_step ha ?_
    exact (result_applyStep_eq_error hp).2 (.inl ih)
  | operator ha hp hb h =>
    refine result_reduceTree_step ha ?_
    exact (result_applyStep_eq_error hp).2 (.inr ⟨_, _, hb, h, rfl⟩)
  | pattern ha hp h =>
    refine result_reduceTree_step ha ?_
    exact (result_applyStep_pattern_eq_error hp).2 ⟨_, h, rfl⟩

/-- **The error of a reduction** is that of the step where it stops. -/
theorem result_reduceTree_eq_error_iff {e : Expr Q} {ops : List Operator}
    {cause : Evaluation.Error} :
    (reduceTree args e).result = .error ⟨ops, cause⟩ ↔ StopsAt args e ops cause :=
  ⟨stopsAt_of_result, result_of_stopsAt⟩

/-- **Reduction is recursion on the tree.** Every expression reduces to the literal or the error
that the recursion gives, with the same events. An error of a left operand is that of the operator,
and one of the step behind it gets the operator as its one further context, which is shown in front
of the others. So an error has the cause of the step where the reduction stops, and the operators of
which that step is a part. -/
theorem reduce_by_recursion (args : Args) :
    (∀ e : Expr Q, reduce args e = reduceTree args e) ∧
    (∀ op (left right : Expr Q), (reduce args (.binary op left right)).result =
      match (reduce args left).result with
      | .error failure => .error failure
      | .ok a =>
        match (applyStep op a right (reduce args right)).result with
        | .error failure => .error ⟨op :: failure.contexts, failure.cause⟩
        | .ok v => .ok v) ∧
    (∀ op ops cause, (Check.Error.evaluation ⟨op :: ops, cause⟩).causes =
      s!"cannot apply {String.ofList op.symbol}" :: (Check.Error.evaluation ⟨ops, cause⟩).causes) ∧
    ∀ (e : Expr Q) ops cause,
      (reduce args e).result = .error ⟨ops, cause⟩ ↔ StopsAt args e ops cause := by
  refine ⟨reduce_eq_reduceTree args, result_reduce_binary_eq, fun _ _ _ => rfl,
    fun e ops cause => ?_⟩
  rw [reduce_eq_reduceTree]
  exact result_reduceTree_eq_error_iff

end Expr
end Condition
