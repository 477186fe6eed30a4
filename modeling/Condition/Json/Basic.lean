import Condition.Double.Rounding
import Condition.Record

/-!
# JSON values

A JSON number keeps whether it was written as an integer (of 64 bits, with or without a sign) or as
a double; an object is a record, so its members come in the order of their names.
-/

namespace Condition

/-- A number of a JSON value. -/
inductive Json.Number where
  | int (n : Int)
  | double (d : Double)
  deriving DecidableEq, Repr

/-- A JSON value. -/
inductive Json where
  | null
  | boolean (b : Bool)
  | number (n : Json.Number)
  | string (text : Text)
  | array (items : List Json)
  | object (members : List (Text × Json))

namespace Json

/-- The six kinds of JSON values. -/
inductive Kind where
  | null
  | boolean
  | number
  | string
  | array
  | object
  deriving DecidableEq, Repr

/-- The name of a kind. -/
def Kind.name : Kind → String
  | .null => "null"
  | .boolean => "boolean"
  | .number => "number"
  | .string => "string"
  | .array => "array"
  | .object => "object"

/-- The kind of a value. -/
def kind : Json → Kind
  | .null => .null
  | .boolean _ => .boolean
  | .number _ => .number
  | .string _ => .string
  | .array _ => .array
  | .object _ => .object

/-- The double nearest to a number. -/
def Number.toDouble : Number → Double
  | .int n => Double.ofInt n
  | .double d => d

/-- The text of a string. -/
def text? : Json → Option Text
  | .string text => some text
  | _ => none

/-- The double nearest to a number. -/
def double? : Json → Option Double
  | .number n => some n.toDouble
  | _ => none

/-- A double as a JSON value: JSON has no form for what is not finite, so that becomes null. -/
def ofDouble (d : Double) : Json := if d.isFinite then .number (.double d) else .null

end Json
end Condition
