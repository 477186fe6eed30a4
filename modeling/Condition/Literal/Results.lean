import Condition.Evaluation.Error
import Condition.Literal.Basic

/-!
# Results of queries as literals

A run of a query becomes one literal: its first or its last value, which has to be a string or a
number, or the list of all values, which have to be of the kind of the first. An error anywhere in
the run is an error of the whole.
-/

namespace Condition.Literal

/-- The literal that one result of a query is: a string or a number. -/
def ofResult (query : Text) : Option Json → Except Evaluation.Error Literal
  | none => throw (.noSubQueryResult query)
  | some .null => throw (.noSubQueryResult query)
  | some (.string text) => return .string text
  | some (.number n) => return .number n.toDouble
  | some other => throw (.subQueryValue query other.kind)

/-- What a reading of each result gives, up to the first result that has another kind. -/
def allResults {α : Type} (query : Text) (read : Json → Option α) :
    List Json → Except Evaluation.Error (List α)
  | [] => return []
  | result :: rest =>
    match read result with
    | none => throw (.subQueryValue query result.kind)
    | some found => return found :: (← allResults query read rest)

/-- The list that all results of a query are: of strings or of numbers, as the first result is. -/
def ofResults (query : Text) (results : List Json) : Except Evaluation.Error Literal :=
  match results.head? with
  | none => throw (.noSubQueryResult query)
  | some .null => throw (.noSubQueryResult query)
  | some (.number _) => .numbers <$> allResults query Json.double? results
  | some (.string _) => .strings <$> allResults query Json.text? results
  | some other => throw (.subQueryValue query other.kind)

/-- The items of a run as values, or its first error. -/
def valuesOf : List (Except Query.Error Json) → Except Query.Error (List Json)
  | [] => .ok []
  | .error e :: _ => .error e
  | .ok value :: rest => (value :: ·) <$> valuesOf rest

/-- The literal that the items of a run are in a mode. An error among them counts in every mode. -/
def collapse (query : Text) (mode : Query.Mode) (items : List (Except Query.Error Json)) :
    Except Evaluation.Error Literal :=
  match valuesOf items with
  | .error e => throw (.subQuery query e)
  | .ok results =>
    match mode with
    | .first => ofResult query results.head?
    | .last => ofResult query results.getLast?
    | .array => ofResults query results

end Condition.Literal
