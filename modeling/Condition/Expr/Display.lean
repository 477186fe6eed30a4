import Condition.Double.Layout
import Condition.Expr.Basic
import Condition.Token.Basic

/-!
# Writing expressions

Each operator is written with its operands in parentheses of its own, so that the text shows the
tree: `A OR B AND C` is `(A OR (B AND C))`. A chain of operators is written along its left edge: all
opening parentheses, the leftmost operand, and then operator by operator.
-/

namespace Condition.Expr

/-- Items between brackets. -/
def bracketed (items : List Text) : Text := '[' :: Text.joined [',', ' '] items ++ [']']

variable [Pattern.Engine] {Q : Type}

mutual

/-- An expression as text. -/
def display (e : Expr Q) : Text :=
  match e with
  | .binary op left right =>
    let spine := spineOnto [(op, right)] left
    List.replicate spine.2.length '(' ++ display spine.1 ++ displaySteps spine.2
  | .group inner => '(' :: display inner ++ [')']
  | .name text => text
  | .string text => Text.quoted text
  | .pattern p => Text.quoted p.source
  | .number d => d.plain
  | .boolean b => Token.booleanText b
  | .strings items => bracketed (items.map Text.quoted)
  | .numbers items => bracketed (items.map Double.listed)
  | .subQuery source mode _ => Token.subQueryText source (some mode.name)
termination_by e.size
decreasing_by
  · exact (size_spine_lt op left right).1
  · exact (size_spine_lt op left right).2
  · simp [size]

/-- Operators with their right operands as text, each closed. -/
def displaySteps (steps : Steps Q) : Text :=
  match steps with
  | [] => []
  | step :: rest => ' ' :: step.1.symbol ++ ' ' :: display step.2 ++ ')' :: displaySteps rest
termination_by stepsSize steps
decreasing_by
  · simp only [stepsSize]
    omega
  · simp only [stepsSize]
    omega

end

end Condition.Expr
