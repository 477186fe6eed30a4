import Condition.Evaluation

/-!
# Evaluators

An evaluator reduces expressions one after the other with the same arguments. It makes the document
of the arguments when a query runs on it for the first time, and keeps it. Nothing else of a
reduction is left but its events, and an error leaves what was there when it occurred.

Chains of operators are walked along their left edge, as by `Expr.reduce`.
-/

namespace Condition

/-- An evaluator at work: the document of its arguments once it is made, and what happened so far,
the last event first. -/
structure Evaluator where
  document : Option Json
  journal : List Event

namespace Evaluator

variable {Q α : Type}

/-- The evaluator that did nothing yet. -/
def fresh : Evaluator := ⟨none, []⟩

/-- What an evaluator does. -/
abbrev Work := EStateM (Failure Operator Evaluation.Error) Evaluator

/-- Notes an event. -/
def record (event : Event) : Work Unit := fun s => .ok () { s with journal := event :: s.journal }

/-- A result of a step that has no events and no contexts. -/
def settled : Except Evaluation.Error α → Work α
  | .ok a => return a
  | .error e => throw (Failure.ofCause e)

/-- Adds an operator to the error of some work. -/
def within (op : Operator) (work : Work α) : Work α := fun s =>
  match work s with
  | .ok a left => .ok a left
  | .error e left => .error (e.within op) left

/-- The document of the arguments, made when it is first asked for. -/
def documentOf (args : Args) : Work Json := fun s =>
  match s.document with
  | some document => .ok document s
  | none =>
    let document := Args.toJson args
    .ok document { s with document := some document }

/-- The literal that a query gives. -/
def answerOf [Query.Runnable Q] (args : Args) (source : Text) (mode : Query.Mode) (query : Q) :
    Work Literal := do
  record (.running source mode)
  let document ← documentOf args
  settled (Literal.collapse source mode (Query.Runnable.run query document))

variable [Pattern.Engine]

/-- The truth value of an operator on a literal and the right operand, given as it is and as it
reduces. A pattern is matched as it is. -/
def applyStep (op : Operator) (left : Literal) (right : Expr Q) (reduced : Work Literal) :
    Work Literal :=
  match Expr.patternFor? op right with
  | some p => settled (Expr.applyPattern op left p)
  | none => do
    let right ← reduced
    settled (Literal.boolean <$> Literal.apply op left right)

mutual

/-- The literal that an expression reduces to. -/
def reduce [Query.Runnable Q] (args : Args) (e : Expr Q) : Work Literal :=
  match e with
  | .binary op left right =>
    let spine := Expr.spineOnto [(op, right)] left
    reduce args spine.1 >>= fun first => reduceSteps args first spine.2
  | .group inner => reduce args inner
  | .name text => settled (Expr.resolve args text)
  | .string text => return .string text
  | .pattern p => return .string p.source
  | .number d => return .number d
  | .boolean b => return .boolean b
  | .strings items => return .strings items
  | .numbers items => return .numbers items
  | .subQuery source mode query => answerOf args source mode query
termination_by e.size
decreasing_by
  · exact (Expr.size_spine_lt op left right).1
  · exact (Expr.size_spine_lt op left right).2
  · simp [Expr.size]

/-- The literal that a chain of operators makes of a literal. -/
def reduceSteps [Query.Runnable Q] (args : Args) (left : Literal) (steps : Expr.Steps Q) :
    Work Literal :=
  match steps with
  | [] => return left
  | step :: rest =>
    within step.1 (applyStep step.1 left step.2 (reduce args step.2)) >>= fun next =>
      reduceSteps args next rest
termination_by Expr.stepsSize steps
decreasing_by
  · simp only [Expr.stepsSize]
    omega
  · simp only [Expr.stepsSize]
    omega

end

/-- The truth value of a condition. -/
def evaluate [Query.Runnable Q] (args : Args) (e : Expr Q) : Work Bool := do
  match ← reduce args e with
  | .boolean b =>
    record (.evaluated e.display b)
    return b
  | other => settled (throw (.notBoolean other.kind))

/-- What an evaluator can be asked. -/
inductive Call (Q : Type) where
  | reduce (e : Expr Q)
  | evaluate (e : Expr Q)

/-- What is reduced or evaluated. -/
def Call.expr : Call Q → Expr Q
  | .reduce e => e
  | .evaluate e => e

/-- The answer of an evaluator; a truth value is a literal. -/
def perform [Query.Runnable Q] (args : Args) : Call Q → Work Literal
  | .reduce e => reduce args e
  | .evaluate e => Literal.boolean <$> evaluate args e

end Evaluator
end Condition
