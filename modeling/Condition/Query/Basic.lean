import Condition.Json.Basic

/-!
# Queries

A query is compiled from its text by an engine, and run on a JSON value. A run yields values in
order; any of its items may be an error instead. Nothing else is known of an engine's queries.
-/

namespace Condition

namespace Query

/-- What is wrong with the text of a query. -/
inductive Fault where
  | unexpected (c : Char)
  | expected (wanted : Char) (found : Option Char)
  | expectedName (found : Option Char)
  | unexpectedInBrackets (c : Char)
  | openBracket
  | openString
  | invalidIndex (text : Text)
  | invalidEscape (c : Char)
  deriving DecidableEq, Repr

/-- A character that was found, or the end. -/
def foundText : Option Char → String
  | some c => s!"found '{c}'"
  | none => "found end of input"

/-- The text of a fault. -/
def Fault.message : Fault → String
  | .unexpected c => s!"unexpected '{c}'"
  | .expected wanted found => s!"expected '{wanted}', {foundText found}"
  | .expectedName found => s!"expected field name, {foundText found}"
  | .unexpectedInBrackets c => s!"unexpected '{c}' in brackets"
  | .openBracket => "unterminated '['"
  | .openString => "unterminated string"
  | .invalidIndex text => s!"invalid index '{String.ofList text}'"
  | .invalidEscape c => s!"invalid escape '\\{c}'"

/-- A step that not every kind of value allows. -/
inductive Access where
  | field (name : Text)
  | index (place : Int)
  | iterate
  deriving DecidableEq, Repr

/-- The description of a step. -/
def Access.description : Access → String
  | .field name => s!"read field \"{String.ofList name}\" of"
  | .index place => s!"index [{place}] into"
  | .iterate => "iterate over"

/-- Why a query does not compile, or an item of a run is no value. The position of a fault counts
bytes of the UTF-8 form. -/
inductive Error where
  | malformed (fault : Fault) (position : Nat)
  | unsuited (access : Access) (kind : Json.Kind)
  | other (message : Text)
  deriving DecidableEq, Repr

/-- The text of an error. -/
def Error.message : Error → String
  | .malformed fault position => s!"query syntax error at position {position}: {fault.message}"
  | .unsuited access kind => s!"cannot {access.description} a {kind.name} value"
  | .other message => String.ofList message

/-- Compiled queries: each yields items for an input. -/
class Runnable (Q : Type) where
  run : Q → Json → List (Except Error Json)

/-- What compiles the text of a query. -/
abbrev Engine (Q : Type) := Text → Except Error Q

/-- How the results of a query become one operand: the first, the last, or all as a list. -/
inductive Mode where
  | first
  | last
  | array
  deriving DecidableEq, Repr

/-- The mode with a name. A name that no mode has, and no name at all, mean the first result. -/
def Mode.ofName : Option Text → Mode
  | some ['l', 'a', 's', 't'] => .last
  | some ['a', 'r', 'r', 'a', 'y'] => .array
  | _ => .first

/-- The name of a mode. -/
def Mode.name : Mode → Text
  | .first => ['f', 'i', 'r', 's', 't']
  | .last => ['l', 'a', 's', 't']
  | .array => ['a', 'r', 'r', 'a', 'y']

end Query
end Condition
