import Condition.Value

/-!
# Literals

An operand reduces to a literal, and every value of an argument is one but for a document.
-/

namespace Condition

/-- What an operand reduces to. -/
inductive Literal where
  | string (text : Text)
  | number (d : Double)
  | boolean (b : Bool)
  | strings (items : List Text)
  | numbers (items : List Double)
  deriving DecidableEq

namespace Literal

/-- The kind of a literal. -/
def kind : Literal → Kind
  | .string _ => .string
  | .number _ => .number
  | .boolean _ => .boolean
  | .strings _ => .strings
  | .numbers _ => .numbers

/-- A literal as a value. -/
def toValue : Literal → Value
  | .string text => .string text
  | .number d => .number d
  | .boolean b => .boolean b
  | .strings items => .strings items
  | .numbers items => .numbers items

/-- The literal that a value is; a document is none. -/
def ofValue? : Value → Option Literal
  | .string text => some (.string text)
  | .number d => some (.number d)
  | .boolean b => some (.boolean b)
  | .strings items => some (.strings items)
  | .numbers items => some (.numbers items)
  | .document _ => none

end Literal
end Condition
