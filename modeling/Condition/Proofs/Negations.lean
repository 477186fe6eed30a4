import Condition.Json.Numbers
import Condition.Pattern.Automata
import Condition.Proofs.Membership
import Condition.Proofs.PatternOperands

/-! # Operators and their negations

Four operators have another one that says the opposite (`Operator.negated?`). Both ask for the same
kinds of operands and fail alike, so that an error is never read as a truth value. There is one
thing only by which their errors differ: an operator that is not defined for its left operand says
its own name, and the contexts of an error tell which operator was being applied.

* `Literal.memberOf_of_isElement`, `Literal.memberOf_of_not_isElement`: what membership says of its
  operator.
* `Literal.apply_negated`: an operator and its negation on two literals.
* `Expr.opposes_applyPattern`: the same on a literal and a pattern that was compiled before.
* `Expr.negated_operators`: an operator and its negation on any operands. -/

namespace Condition

/-- The operator that says the opposite of another one. -/
def Operator.negated? : Operator → Option Operator
  | .and => some .nand
  | .equal => some .notEqual
  | .matching => some .notMatching
  | .member => some .notMember
  | _ => none

/-! ### Literals -/

namespace Literal

/-- For a string or a number, membership does not say which operator asks for it. -/
theorem memberOf_of_isElement {a : Literal} (h : a.kind.isElement = true) (op op' : Operator)
    (b : Literal) : memberOf op a b = memberOf op' a b := by
  cases a with
  | string | number => cases b with
    | strings items | numbers items => cases items <;> rfl
    | _ => rfl
  | _ => cases h

/-- For every other literal it is not defined. -/
theorem memberOf_of_not_isElement {a : Literal} (h : a.kind.isElement = false) (op : Operator)
    (b : Literal) : memberOf op a b = .error (.unsupportedOperand op a.kind) := by
  cases a with
  | string | number => cases h
  | _ => rfl

/-- **An operator and its negation on two literals** give opposite truth values, or fail with the
same error, or are not defined for the left literal, which each says of itself. -/
theorem apply_negated [Pattern.Engine] {op op' : Operator} (h : op.negated? = some op')
    (a b : Literal) : (∃ t, apply op a b = .ok t ∧ apply op' a b = .ok !t) ∨
    (∃ cause, apply op a b = .error cause ∧ apply op' a b = .error cause) ∨
    (apply op a b = .error (.unsupportedOperand op a.kind) ∧
      apply op' a b = .error (.unsupportedOperand op' a.kind)) := by
  -- where the negation is that of the same truth value, nothing else can come of it
  have negation : ∀ {x : Except Evaluation.Error Bool}, apply op a b = x →
      apply op' a b = not <$> x → (∃ t, apply op a b = .ok t ∧ apply op' a b = .ok !t) ∨
        ∃ cause, apply op a b = .error cause ∧ apply op' a b = .error cause := by
    intro x hx hx'
    cases x with
    | ok t => exact .inl ⟨t, hx, hx'⟩
    | error cause => exact .inr ⟨cause, hx, hx'⟩
  have either : ∀ {p q r : Prop}, p ∨ q → p ∨ q ∨ r := fun h => h.imp_right .inl
  cases op with
  | and | equal | matching =>
    cases h
    exact either (negation rfl rfl)
  | member =>
    cases h
    cases ha : a.kind.isElement with
    | true =>
      refine either (negation rfl ?_)
      show not <$> memberOf .notMember a b = not <$> memberOf .member a b
      rw [memberOf_of_isElement ha .notMember .member]
    | false =>
      refine .inr (.inr ⟨memberOf_of_not_isElement ha .member b, ?_⟩)
      show not <$> memberOf .notMember a b = _
      rw [memberOf_of_not_isElement ha]
      rfl
  | _ => cases h

end Literal

/-! ### Operands -/

namespace Expr

variable {op op' : Operator}

/-- **How the results of an operator and of its negation go together**: opposite truth values, an
error of the left operand, an error behind the left operand in the context of either operator, or
the error that neither of them is defined for the left operand. -/
inductive Opposed (op op' : Operator) : Except (Failure Operator Evaluation.Error) Literal →
    Except (Failure Operator Evaluation.Error) Literal → Prop where
  | truth (t : Bool) : Opposed op op' (.ok (.boolean t)) (.ok (.boolean !t))
  | left (failure : Failure Operator Evaluation.Error) :
    Opposed op op' (.error failure) (.error failure)
  | step (ops : List Operator) (cause : Evaluation.Error) :
    Opposed op op' (.error ⟨op :: ops, cause⟩) (.error ⟨op' :: ops, cause⟩)
  | undefined (kind : Kind) : Opposed op op' (.error ⟨[op], .unsupportedOperand op kind⟩)
    (.error ⟨[op'], .unsupportedOperand op' kind⟩)

section

variable {plain negated : Except (Failure Operator Evaluation.Error) Literal} {v : Literal}
  {failure failure' : Failure Operator Evaluation.Error}

theorem Opposed.of_plain_ok (h : Opposed op op' plain negated) (hv : plain = .ok v) :
    ∃ t, v = .boolean t ∧ negated = .ok (.boolean !t) := by
  cases h with
  | truth t =>
    cases hv
    exact ⟨t, rfl, rfl⟩
  | _ => cases hv

theorem Opposed.of_negated_ok (h : Opposed op op' plain negated) (hv : negated = .ok v) :
    ∃ t, v = .boolean !t ∧ plain = .ok (.boolean t) := by
  cases h with
  | truth t =>
    cases hv
    exact ⟨t, rfl, rfl⟩
  | _ => cases hv

theorem Opposed.fails_iff (h : Opposed op op' plain negated) :
    (∃ failure, plain = .error failure) ↔ ∃ failure, negated = .error failure := by
  cases h with
  | truth t => exact iff_of_false nofun nofun
  | _ => exact iff_of_true ⟨_, rfl⟩ ⟨_, rfl⟩

theorem Opposed.cause (h : Opposed op op' plain negated) (hf : plain = .error failure)
    (hf' : negated = .error failure') :
    failure'.cause = failure.cause ∨ ∃ kind, failure.cause = .unsupportedOperand op kind ∧
      failure'.cause = .unsupportedOperand op' kind := by
  cases h with
  | truth t => cases hf
  | left | step =>
    cases hf
    cases hf'
    exact .inl rfl
  | undefined kind =>
    cases hf
    cases hf'
    exact .inr ⟨kind, rfl, rfl⟩

theorem Opposed.contexts (h : Opposed op op' plain negated) (hf : plain = .error failure)
    (hf' : negated = .error failure') :
    failure'.contexts = failure.contexts ∨ ∃ ops, failure.contexts = op :: ops ∧
      failure'.contexts = op' :: ops := by
  cases h with
  | truth t => cases hf
  | left =>
    cases hf
    cases hf'
    exact .inl rfl
  | step | undefined =>
    cases hf
    cases hf'
    exact .inr ⟨_, rfl, rfl⟩

end

/-- The same for outcomes, which have the same events. -/
structure Opposes (op op' : Operator) (plain negated : Outcome Literal) : Prop where
  results : Opposed op op' plain.result negated.result
  events : negated.events = plain.events

/-- An error in front of the operator is that of both. -/
theorem Opposes.bind {first : Outcome Literal} {plain negated : Literal → Outcome Literal}
    (h : ∀ a, Opposes op op' (plain a) (negated a)) :
    Opposes op op' (first >>= plain) (first >>= negated) := by
  obtain ⟨events, result⟩ := first
  cases result with
  | error failure => exact ⟨.left failure, rfl⟩
  | ok a => exact ⟨(h a).results, congrArg (events ++ ·) (h a).events⟩

section

variable [Pattern.Engine] {Q : Type}

/-- On a left literal and the literal of the right operand. -/
theorem opposes_apply (h : op.negated? = some op') (a : Literal) (reduced : Outcome Literal) :
    Opposes op op'
      ((reduced >>= fun b => settled (Literal.boolean <$> Literal.apply op a b)).mapError
        (Failure.within op))
      ((reduced >>= fun b => settled (Literal.boolean <$> Literal.apply op' a b)).mapError
        (Failure.within op')) := by
  obtain ⟨events, result⟩ := reduced
  cases result with
  | error failure => exact ⟨.step failure.contexts failure.cause, rfl⟩
  | ok b =>
    refine ⟨?_, rfl⟩
    show Opposed op op'
      (((Literal.boolean <$> Literal.apply op a b).mapError Failure.ofCause).mapError
        (Failure.within op))
      (((Literal.boolean <$> Literal.apply op' a b).mapError Failure.ofCause).mapError
        (Failure.within op'))
    rcases Literal.apply_negated h a b with ⟨t, ht, ht'⟩ | ⟨cause, hc, hc'⟩ | ⟨hc, hc'⟩
    · rw [ht, ht']
      exact .truth t
    · rw [hc, hc']
      exact .step [] cause
    · rw [hc, hc']
      exact .undefined a.kind

/-- On a left literal and a pattern that was compiled before. -/
theorem opposes_applyPattern (a : Literal) (p : Pattern) : Opposes .matching .notMatching
    ((settled (applyPattern .matching a p)).mapError (Failure.within .matching))
    ((settled (applyPattern .notMatching a p)).mapError (Failure.within .notMatching)) := by
  refine ⟨?_, rfl⟩
  show Opposed _ _ (((applyPattern .matching a p).mapError Failure.ofCause).mapError _)
    (((applyPattern .notMatching a p).mapError Failure.ofCause).mapError _)
  unfold applyPattern
  cases a.matchesPattern p with
  | error cause => exact .step [] cause
  | ok matched => cases matched with
    | true => exact .truth true
    | false => exact .truth false

theorem patternFor?_negated (h : op.negated? = some op') (right : Expr Q) :
    patternFor? op' right = patternFor? op right := by
  have ht : op'.takesPattern = op.takesPattern := by
    cases op with
    | and | equal | matching | member =>
      cases h
      rfl
    | _ => cases h
  unfold patternFor?
  rw [ht]

/-- **The step of an operator** and that of its negation. -/
theorem opposes_applyStep (h : op.negated? = some op') (a : Literal) (right : Expr Q)
    (reduced : Outcome Literal) : Opposes op op'
      ((applyStep op a right reduced).mapError (Failure.within op))
      ((applyStep op' a right reduced).mapError (Failure.within op')) := by
  cases hp : patternFor? op right with
  | none =>
    have hp' := (patternFor?_negated h right).trans hp
    rw [applyStep_of_patternFor? hp, applyStep_of_patternFor? hp']
    exact opposes_apply h a reduced
  | some p =>
    obtain ⟨rfl, ht⟩ := patternFor?_eq_some hp
    cases op with
    | matching =>
      cases h
      exact opposes_applyPattern a p
    | notMatching => cases h
    | _ => cases ht

variable [Query.Runnable Q]

theorem opposes_reduce (h : op.negated? = some op') (args : Args) (left right : Expr Q) :
    Opposes op op' (reduce args (.binary op left right))
      (reduce args (.binary op' left right)) := by
  rw [reduce_binary, reduce_binary]
  exact Opposes.bind fun a => opposes_applyStep h a right (reduce args right)

/-- **Negated operators are complements.** Whatever the operands, an operator and its negation both
reduce, to opposite truth values, or both fail. Then the cause is the same, but for the name of the
operator where the operator is not defined for its left operand, and so are the contexts, but for
the operator itself. The same queries are run. -/
theorem negated_operators (h : op.negated? = some op') (args : Args) (left right : Expr Q) :
    let plain := reduce args (.binary op left right)
    let negated := reduce args (.binary op' left right)
    (∀ v, plain.result = .ok v → ∃ t, v = .boolean t ∧ negated.result = .ok (.boolean !t)) ∧
    (∀ v, negated.result = .ok v → ∃ t, v = .boolean !t ∧ plain.result = .ok (.boolean t)) ∧
    ((∃ failure, plain.result = .error failure) ↔ ∃ failure, negated.result = .error failure) ∧
    (∀ failure failure', plain.result = .error failure → negated.result = .error failure' →
      (failure'.cause = failure.cause ∨ ∃ kind, failure.cause = .unsupportedOperand op kind ∧
        failure'.cause = .unsupportedOperand op' kind) ∧
      (failure'.contexts = failure.contexts ∨ ∃ ops, failure.contexts = op :: ops ∧
        failure'.contexts = op' :: ops)) ∧
    negated.events = plain.events := by
  intro plain negated
  obtain ⟨hresults, hevents⟩ := opposes_reduce h args left right
  exact ⟨fun v hv => hresults.of_plain_ok hv, fun v hv => hresults.of_negated_ok hv,
    hresults.fails_iff, fun failure failure' hf hf' =>
      ⟨hresults.cause hf hf', hresults.contexts hf hf'⟩,
    hevents⟩

end

/-- A text that a pattern matches, and a truth value, for which membership is not defined. -/
theorem negated_operators_of_pattern_and_truth_value :
    ∃ p : Pattern, p.source = ['a', '+'] ∧
      let text : Expr Path := .string ['b', 'a']
      let truth : Expr Path := .boolean true
      let list : Expr Path := .strings [['a']]
      (reduce [] (.binary .notMatching text (.pattern p))).result = .ok (.boolean false) ∧
      (reduce [] (.binary .member truth list)).result =
        .error ⟨[.member], .unsupportedOperand .member .boolean⟩ ∧
      ∃ failure, (reduce [] (.binary .notMember truth list)).result = .error failure ∧
        (failure.cause = .unsupportedOperand .member .boolean ∨
          failure.cause = .unsupportedOperand .notMember .boolean) := by
  obtain ⟨p, hp, hmatches⟩ : ∃ p, Pattern.ofText? ['a', '+'] = some p ∧
      p.matchesIn ['b', 'a'] = true :=
    (Option.any_eq_true ..).1 (by decide +kernel)
  refine ⟨p, Pattern.source_of_ofText? hp, ?_⟩
  intro text truth list
  have hmatching : Operator.negated? .matching = some .notMatching := rfl
  have hmember : Operator.negated? .member = some .notMember := rfl
  have htext : (reduce [] (.binary .matching text (.pattern p))).result = .ok (.boolean true) := by
    rw [reduce_eq_reduceTree]
    show Except.ok (Literal.boolean (p.matchesIn ['b', 'a'] == true)) = _
    rw [hmatches]
    rfl
  have hlist : (reduce [] (.binary .member truth list)).result =
      .error ⟨[.member], .unsupportedOperand .member .boolean⟩ := by
    rw [reduce_eq_reduceTree]
    rfl
  obtain ⟨hopposite, -⟩ := negated_operators hmatching [] text (.pattern p)
  obtain ⟨-, -, hfails, hsame, -⟩ := negated_operators hmember [] truth list
  obtain ⟨t, ht, hnegated⟩ := hopposite _ htext
  obtain ⟨failure, hfailure⟩ := hfails.1 ⟨_, hlist⟩
  cases ht
  refine ⟨hnegated, hlist, failure, hfailure, ?_⟩
  obtain ⟨hcause, -⟩ := hsame _ failure hlist hfailure
  rcases hcause with hcause | ⟨kind, hkind, hcause⟩
  · exact .inl hcause
  · cases hkind
    exact .inr hcause

end Expr
end Condition
