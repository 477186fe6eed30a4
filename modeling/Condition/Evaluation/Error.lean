import Condition.Operator
import Condition.Query.Basic
import Condition.Value

/-!
# Errors of an evaluation

Each error says what was found where something else was asked for.
-/

namespace Condition

/-- Why an expression does not reduce to a literal, or a condition not to a truth value. -/
inductive Evaluation.Error where
  | missingArgument (name : Text)
  | unsupportedValue (name : Text) (kind : Kind)
  | typeMismatch (expected found : Kind)
  | invalidPattern (pattern : Text)
  | unsupportedOperand (op : Operator) (found : Kind)
  | noSubQueryResult (query : Text)
  | subQueryValue (query : Text) (found : Json.Kind)
  | subQuery (query : Text) (error : Query.Error)
  | notBoolean (found : Kind)
  deriving DecidableEq

/-- The text of an error. -/
def Evaluation.Error.message : Evaluation.Error → String
  | .missingArgument name => s!"argument '{String.ofList name}' is not defined"
  | .unsupportedValue name kind =>
    s!"argument '{String.ofList name}' holds a {kind.name}, which cannot be used as an operand"
  | .typeMismatch expected found => s!"expected a {expected.name} operand, found a {found.name}"
  | .invalidPattern pattern => s!"invalid regular expression '{String.ofList pattern}'"
  | .unsupportedOperand op found =>
    s!"{String.ofList op.symbol} is not defined for a {found.name} left operand"
  | .noSubQueryResult query => s!"sub-query '{String.ofList query}' produced no value"
  | .subQueryValue query found =>
    s!"sub-query '{String.ofList query}' produced a {found.name}, expected a string or a number"
  | .subQuery query _ => s!"sub-query '{String.ofList query}' failed"
  | .notBoolean found => s!"condition reduced to a {found.name}, expected a boolean"

end Condition
