import Condition.Json.Numbers
import Condition.Pattern.Automata
import Condition.Proofs.PatternOperands
import Condition.Proofs.SameTrees

/-! # Groups that are erased

Groups say how an expression is put together, and nothing else. But a group does change the way a
reduction takes: in front of an operator it ends the left edge that is walked in one go, and around
a pattern it hides that the text was read before. Neither shows: whichever groups are erased
(`Erases`), the expression reduces to the same literal, or to the same error in the same contexts,
with the same events.

* `applyStep_reduceTree`: a step asks for nothing but the literal of its right operand.
* `reduce_of_erases`: an expression and what is left of it without some of its groups. -/

namespace Condition.Expr

section

variable [Pattern.Engine] {Q : Type}

/-! ### Groups that are erased -/

/-- **Some groups of an expression are erased**, wherever they stand, and the others kept. -/
inductive Erases : Expr Q → Expr Q → Prop where
  | refl (e : Expr Q) : Erases e e
  | erase {inner e : Expr Q} (h : Erases inner e) : Erases (.group inner) e
  | group {inner inner' : Expr Q} (h : Erases inner inner') : Erases (.group inner) (.group inner')
  | binary (op : Operator) {left left' right right' : Expr Q} (hl : Erases left left')
    (hr : Erases right right') : Erases (.binary op left right) (.binary op left' right')

/-! ### Steps and the literals of their right operands -/

variable [Pattern.Engine.Lawful] [Query.Runnable Q] {args : Args}

/-- **A step asks for the literal of its right operand** and nothing else of it: a pattern that was
read before counts as the text that spells it. -/
theorem applyStep_reduceTree (args : Args) (op : Operator) (a : Literal) (right : Expr Q) :
    applyStep op a right (reduceTree args right) =
      reduceTree args right >>= fun b => settled (Literal.boolean <$> Literal.apply op a b) := by
  cases hp : patternFor? op right with
  | none => exact applyStep_of_patternFor? hp a _
  | some p =>
    obtain ⟨rfl, -⟩ := patternFor?_eq_some hp
    have hreduced : reduceTree args (.pattern p : Expr Q) = pure (.string p.source) := rfl
    rw [hreduced, applyStep_pattern, pure_bind]

/-- So the right operand of an operator counts by what it reduces to, as the left one does. -/
theorem reduceTree_binary (args : Args) (op : Operator) (left right : Expr Q) :
    reduceTree args (.binary op left right) = reduceTree args left >>= fun a =>
      (reduceTree args right >>= fun b =>
        settled (Literal.boolean <$> Literal.apply op a b)).mapError (Failure.within op) := by
  rw [reduceTree]
  refine congrArg _ (funext fun a => ?_)
  rw [applyStep_reduceTree]

/-! ### Reductions without some groups -/

theorem reduceTree_of_erases {e e' : Expr Q} (h : Erases e e') :
    reduceTree args e' = reduceTree args e := by
  induction h with
  | refl => rfl
  | erase _ ih => exact ih
  | group _ ih => exact ih
  | binary op _ _ ihl ihr => rw [reduceTree_binary, reduceTree_binary, ihl, ihr]

/-- **Groups are transparent.** Whichever groups of an expression are erased, it reduces to the same
literal, or to the same error in the same contexts, and runs the same queries; as a condition it has
the same truth value, or the same error. -/
theorem reduce_of_erases {e e' : Expr Q} (h : Erases e e') (args : Args) :
    reduce args e' = reduce args e ∧ (evaluate args e').result = (evaluate args e).result := by
  have hreduce : reduce args e' = reduce args e := by
    rw [reduce_eq_reduceTree, reduce_eq_reduceTree, reduceTree_of_erases h]
  refine ⟨hreduce, result_evaluate_eq ?_⟩
  rw [hreduce]
  exact ReduceAlike.refl _

end

/-- Without the group at the left edge, the two around a pattern, and one of the two around an
operand that fails, the error is in the same contexts. -/
theorem reduce_of_erases_around_pattern :
    ∃ p : Pattern, p.source = ['a', '+'] ∧
      let args : Args := [(['n'], .string ['b', 'a']), (['t'], .strings [['b']])]
      let failing : Expr Path := .binary .member (.name ['n']) (.name ['k'])
      let e : Expr Path := .binary .or
        (.group (.binary .matching (.group (.name ['n'])) (.group (.group (.pattern p)))))
        (.group (.binary .and (.boolean true) (.group failing)))
      let e' : Expr Path := .binary .or
        (.binary .matching (.group (.name ['n'])) (.pattern p))
        (.binary .and (.boolean true) (.group failing))
      Erases e e' ∧ reduce args e' = reduce args e ∧
        (evaluate args e').result = (evaluate args e).result ∧
        (reduce args e').result = .error ⟨[.or, .and, .member], .missingArgument ['k']⟩ := by
  obtain ⟨p, hp⟩ : ∃ p, Pattern.ofText? ['a', '+'] = some p :=
    Option.isSome_iff_exists.1 (by decide +kernel)
  refine ⟨p, Pattern.source_of_ofText? hp, ?_⟩
  intro args failing e e'
  have herases : Erases e e' :=
    .binary .or (.erase (.binary .matching (.refl _) (.erase (.erase (.refl _)))))
      (.erase (.binary .and (.refl _) (.refl _)))
  obtain ⟨hreduce, hevaluate⟩ := reduce_of_erases herases args
  refine ⟨herases, hreduce, hevaluate, ?_⟩
  -- the pattern matches or not, and the right operand is reduced in any case
  rw [reduce_eq_reduceTree]
  rfl

end Condition.Expr
