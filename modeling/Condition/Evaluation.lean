import Condition.Expr.Display
import Condition.Journal
import Condition.Literal.Operators
import Condition.Literal.Results

/-!
# Evaluation

`Expr.reduce` reduces an expression to a literal with the values of the arguments. Groups count as
what they hold. A chain of operators is walked along its left edge: the leftmost operand is reduced,
and then operator by operator is applied, each with its right operand reduced just before. An error
of such a step says which operator it was; an error of the leftmost operand does not.

A query runs on all arguments as one JSON object each time its operand is reduced, and nothing is
skipped: a right operand is reduced also where the left one decides already.
-/

namespace Condition.Expr

/-- What a reduction gives: the result with its events, or an error with the operators being
applied. -/
abbrev Outcome := Journaled (Failure Operator Evaluation.Error)

/-- A result of a step that makes no events and has no contexts. -/
def settled {α : Type} (result : Except Evaluation.Error α) : Outcome α :=
  .ofExcept (result.mapError Failure.ofCause)

/-- The literal that a name stands for. -/
def resolve (args : Args) (name : Text) : Except Evaluation.Error Literal :=
  match args.lookup name with
  | none => throw (.missingArgument name)
  | some value =>
    match Literal.ofValue? value with
    | some literal => return literal
    | none => throw (.unsupportedValue name value.kind)

variable {Q : Type}

/-- The literal that a query gives. -/
def answerOf [Query.Runnable Q] (args : Args) (source : Text) (mode : Query.Mode) (query : Q) :
    Outcome Literal := do
  Journaled.record (.running source mode)
  settled (Literal.collapse source mode (Query.Runnable.run query (Args.toJson args)))

variable [Pattern.Engine]

/-- The pattern that a right operand is, where the operator takes one. -/
def patternFor? (op : Operator) : Expr Q → Option Pattern
  | .pattern p => if op.takesPattern then some p else none
  | _ => none

/-- The truth value of an operator that takes a pattern. -/
def applyPattern (op : Operator) (left : Literal) (pattern : Pattern) :
    Except Evaluation.Error Literal := do
  let matched ← left.matchesPattern pattern
  return .boolean (matched == (op == .matching))

/-- The truth value of an operator on a literal and the right operand, given as it is and as it
reduces. A pattern is matched as it is. -/
def applyStep (op : Operator) (left : Literal) (right : Expr Q) (reduced : Outcome Literal) :
    Outcome Literal :=
  match patternFor? op right with
  | some p => settled (applyPattern op left p)
  | none => do
    let right ← reduced
    settled (Literal.boolean <$> Literal.apply op left right)

mutual

/-- The literal that an expression reduces to. -/
def reduce [Query.Runnable Q] (args : Args) (e : Expr Q) : Outcome Literal :=
  match e with
  | .binary op left right =>
    let spine := spineOnto [(op, right)] left
    reduce args spine.1 >>= fun first => reduceSteps args first spine.2
  | .group inner => reduce args inner
  | .name text => settled (resolve args text)
  | .string text => pure (.string text)
  | .pattern p => pure (.string p.source)
  | .number d => pure (.number d)
  | .boolean b => pure (.boolean b)
  | .strings items => pure (.strings items)
  | .numbers items => pure (.numbers items)
  | .subQuery source mode query => answerOf args source mode query
termination_by e.size
decreasing_by
  · exact (size_spine_lt op left right).1
  · exact (size_spine_lt op left right).2
  · simp [size]

/-- The literal that a chain of operators makes of a literal. -/
def reduceSteps [Query.Runnable Q] (args : Args) (left : Literal) (steps : Steps Q) :
    Outcome Literal :=
  match steps with
  | [] => pure left
  | step :: rest =>
    (applyStep step.1 left step.2 (reduce args step.2)).mapError (Failure.within step.1) >>=
      fun next => reduceSteps args next rest
termination_by stepsSize steps
decreasing_by
  · simp only [stepsSize]
    omega
  · simp only [stepsSize]
    omega

end

/-- The truth value of a condition. -/
def evaluate [Query.Runnable Q] (args : Args) (e : Expr Q) : Outcome Bool := do
  match ← e.reduce args with
  | .boolean b =>
    Journaled.record (.evaluated e.display b)
    return b
  | other => settled (throw (.notBoolean other.kind))

end Condition.Expr
