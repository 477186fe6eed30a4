import Condition.Evaluation.Error
import Condition.Literal.Basic
import Condition.Pattern

/-!
# Operators on literals

Each operator asks for certain kinds of literals and gives a truth value; a literal of another kind
is an error, looked for from left to right. `AND`, `NAND` and `OR` do not look at the right one
where the left one decides. A list on the left equals nothing, and an empty list, which has no kind
of elements, contains neither strings nor numbers.
-/

namespace Condition.Literal

/-! ### The kinds that operators ask for -/

/-- The truth value of a literal. -/
def asBoolean : Literal → Except Evaluation.Error Bool
  | .boolean b => .ok b
  | other => .error (.typeMismatch .boolean other.kind)

/-- The number of a literal. -/
def asNumber : Literal → Except Evaluation.Error Double
  | .number d => .ok d
  | other => .error (.typeMismatch .number other.kind)

/-- The text of a literal. -/
def asString : Literal → Except Evaluation.Error Text
  | .string text => .ok text
  | other => .error (.typeMismatch .string other.kind)

/-! ### Operators -/

/-- Whether both literals are true. -/
def both (left right : Literal) : Except Evaluation.Error Bool := do
  if ← left.asBoolean then right.asBoolean else return false

/-- Whether one of the literals is true. -/
def either (left right : Literal) : Except Evaluation.Error Bool := do
  if ← left.asBoolean then return true else right.asBoolean

/-- Whether exactly one of the literals is true. -/
def oneOf (left right : Literal) : Except Evaluation.Error Bool := do
  return (← left.asBoolean) != (← right.asBoolean)

/-- Whether the literals are equal; the left one says what the right one has to be. -/
def equal : Literal → Literal → Except Evaluation.Error Bool
  | .string a, right => do return a == (← right.asString)
  | .number a, right => do return a.equals (← right.asNumber)
  | .boolean a, right => do return a == (← right.asBoolean)
  | .strings _, _ => return false
  | .numbers _, _ => return false

/-- Whether a relation holds between two numbers. -/
def compare (relation : Double → Double → Bool) (left right : Literal) :
    Except Evaluation.Error Bool := do
  return relation (← left.asNumber) (← right.asNumber)

section
variable [Pattern.Engine]

/-- Whether the left literal matches a pattern that was read before. -/
def matchesPattern (left : Literal) (pattern : Pattern) : Except Evaluation.Error Bool := do
  return pattern.matchesIn (← left.asString)

/-- Whether the left literal matches the pattern that the right one spells. -/
def matches? (left right : Literal) : Except Evaluation.Error Bool := do
  let text ← left.asString
  let source ← right.asString
  match Pattern.ofText? source with
  | some pattern => return pattern.matchesIn text
  | none => throw (.invalidPattern source)

end

/-- Whether the left literal is an element of the right one. -/
def memberOf (op : Operator) : Literal → Literal → Except Evaluation.Error Bool
  | .string text, .strings items => return items.contains text
  | .number d, .numbers items => return items.any d.equals
  | .string _, .numbers [] => return false
  | .number _, .strings [] => return false
  | .string _, other => throw (.typeMismatch .strings other.kind)
  | .number _, other => throw (.typeMismatch .numbers other.kind)
  | other, _ => throw (.unsupportedOperand op other.kind)

/-- The truth value of an operator on two literals. -/
def apply [Pattern.Engine] (op : Operator) (left right : Literal) : Except Evaluation.Error Bool :=
  match op with
  | .and => both left right
  | .nand => not <$> both left right
  | .or => either left right
  | .xor => oneOf left right
  | .equal => equal left right
  | .notEqual => not <$> equal left right
  | .less => compare Double.below left right
  | .atMost => compare Double.atMost left right
  | .greater => compare (fun a b => b.below a) left right
  | .atLeast => compare (fun a b => b.atMost a) left right
  | .matching => matches? left right
  | .notMatching => not <$> matches? left right
  | .member => memberOf .member left right
  | .notMember => not <$> memberOf .notMember left right

end Condition.Literal
