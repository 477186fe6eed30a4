import Condition.Query.Basic

/-!
# Paths

A path leads from a JSON value to values inside it: by the name of a field, by an index that counts
from the end if it is negative, or to all elements. Paths follow one another in a pipe, and stand
beside one another in a comma list; an optional path yields nothing where it fails.

`Path.outputs` gives the values of a path in order, and the error where it meets one. A pipe goes on
stage by stage and yields nothing if a stage fails; a comma list keeps what its branches yielded.
-/

namespace Condition

/-- A path into JSON values. -/
inductive Path where
  | identity
  | field (name : Text)
  | index (place : Int)
  | iterate
  | optional (path : Path)
  | pipe (stages : List Path)
  | comma (branches : List Path)

namespace Path

/-- The values that a path yields, and the error that ends them. -/
structure Outcome where
  values : List Json
  failure : Option Query.Error

/-- Values without an error. -/
def Outcome.ofValues (values : List Json) : Outcome := ⟨values, none⟩

/-- An error without values. -/
def Outcome.failed (e : Query.Error) : Outcome := ⟨[], some e⟩

/-- The values, if no error ends them. -/
def Outcome.complete (outcome : Outcome) : Except Query.Error (List Json) :=
  match outcome.failure with
  | some e => .error e
  | none => .ok outcome.values

/-- One step by a name. A field that is not there is null, and so is a field of null. -/
def fieldOf (name : Text) : Json → Outcome
  | .object members => .ofValues [(members.lookup name).getD .null]
  | .null => .ofValues [.null]
  | other => .failed (.unsuited (.field name) other.kind)

/-- The place in a list of some length that an index means. -/
def placeOf (place : Int) (length : Nat) : Option Nat :=
  if 0 ≤ place then some place.toNat
  else if place.natAbs ≤ length then some (length - place.natAbs)
  else none

/-- One step by an index. An element that is not there is null, and so is an element of null. -/
def indexOf (place : Int) : Json → Outcome
  | .array items => .ofValues [((placeOf place items.length).bind (items[·]?)).getD .null]
  | .null => .ofValues [.null]
  | other => .failed (.unsuited (.index place) other.kind)

/-- One step to all elements, or to the members of an object in the order of their names. -/
def elementsOf : Json → Outcome
  | .array items => .ofValues items
  | .object members => .ofValues (members.map (·.2))
  | other => .failed (.unsuited .iterate other.kind)

/-- What a stage yields for each of the values in turn, as long as it does not fail. -/
def outputsOfEach (stage : Json → Outcome) : List Json → Except Query.Error (List Json)
  | [] => .ok []
  | value :: rest => do
    let found ← (stage value).complete
    let more ← outputsOfEach stage rest
    return found ++ more

mutual

/-- What a path yields for a value. -/
def outputs : Path → Json → Outcome
  | .identity, input => .ofValues [input]
  | .field name, input => fieldOf name input
  | .index place, input => indexOf place input
  | .iterate, input => elementsOf input
  | .optional path, input =>
    match (outputs path input).complete with
    | .ok values => .ofValues values
    | .error _ => .ofValues []
  | .pipe stages, input =>
    match outputsOfStages stages [input] with
    | .ok values => .ofValues values
    | .error e => .failed e
  | .comma branches, input => outputsOfBranches branches input

/-- What the stages yield when each takes all that the one before it yielded. -/
def outputsOfStages : List Path → List Json → Except Query.Error (List Json)
  | [], values => .ok values
  | stage :: rest, values => do
    let found ← outputsOfEach (outputs stage) values
    outputsOfStages rest found

/-- What the branches yield for one value, one after the other, up to the first that fails. -/
def outputsOfBranches : List Path → Json → Outcome
  | [], _ => .ofValues []
  | branch :: rest, input =>
    let found := outputs branch input
    match found.failure with
    | some _ => found
    | none =>
      let more := outputsOfBranches rest input
      ⟨found.values ++ more.values, more.failure⟩

end

/-- The items of a run: the values, and the error behind them if there is one. -/
def run (path : Path) (input : Json) : List (Except Query.Error Json) :=
  let outcome := path.outputs input
  outcome.values.map .ok ++ (outcome.failure.map Except.error).toList

instance : Query.Runnable Path := ⟨run⟩

end Path
end Condition
