import Condition.Json.Basic

/-!
# Values and arguments

An argument is a scalar, a list of strings, a list of numbers, or a document: any other JSON, which
only a query can look into. `Value.ofJson` sorts a JSON value into one of these, and `Args.toJson`
gives the document that queries run on.
-/

namespace Condition

/-- The kinds of values. -/
inductive Kind where
  | string
  | number
  | boolean
  | strings
  | numbers
  | document
  deriving DecidableEq, Repr

/-- The name of a kind. -/
def Kind.name : Kind → String
  | .string => "string"
  | .number => "number"
  | .boolean => "boolean"
  | .strings => "string list"
  | .numbers => "number list"
  | .document => "document"

/-- The value of an argument. -/
inductive Value where
  | string (text : Text)
  | number (d : Double)
  | boolean (b : Bool)
  | strings (items : List Text)
  | numbers (items : List Double)
  | document (json : Json)

namespace Value

/-- The kind of a value. -/
def kind : Value → Kind
  | .string _ => .string
  | .number _ => .number
  | .boolean _ => .boolean
  | .strings _ => .strings
  | .numbers _ => .numbers
  | .document _ => .document

/-- The list that an array is: of strings if all items are strings (or there are none), of numbers
if all are numbers, and else a document. -/
def ofItems (items : List Json) : Value :=
  match items.mapM Json.text?, items.mapM Json.double? with
  | some texts, _ => .strings texts
  | none, some doubles => .numbers doubles
  | none, none => .document (.array items)

/-- The value that a JSON value is as an argument. -/
def ofJson : Json → Value
  | .boolean b => .boolean b
  | .number n => .number n.toDouble
  | .string text => .string text
  | .array items => ofItems items
  | json => .document json

/-- A value as JSON. -/
def toJson : Value → Json
  | .string text => .string text
  | .number d => .ofDouble d
  | .boolean b => .boolean b
  | .strings items => .array (items.map .string)
  | .numbers items => .array (items.map .ofDouble)
  | .document json => json

/-- An integer as a value. -/
def ofInt (n : Int) : Value := .number (Double.ofInt n)

/-- Integers as a value. -/
def ofInts (items : List Int) : Value := .numbers (items.map Double.ofInt)

end Value

/-- The arguments of an evaluation, by name. -/
abbrev Args := Record Value

namespace Args

/-- Why a JSON value gives no arguments. -/
inductive Error where
  | notAnObject (kind : Json.Kind)
  deriving DecidableEq, Repr

/-- The text of an error. -/
def Error.message : Error → String
  | .notAnObject kind => "arguments must be a JSON object, got " ++ kind.name

/-- The arguments that the members of an object are. -/
def ofJson : Json → Except Error Args
  | .object members => .ok (members.map fun member => (member.1, Value.ofJson member.2))
  | json => .error (.notAnObject json.kind)

/-- All arguments as one JSON object. -/
def toJson (args : Args) : Json := .object (args.map fun arg => (arg.1, arg.2.toJson))

end Args
end Condition
