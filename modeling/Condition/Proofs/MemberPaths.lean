import Condition.Proofs.PathReadings

/-! # Paths to members

The path `.["name"]` leads to the member of an object with that name, and `.["name"][]` to the
elements of that member. Behind a backslash where it is a quote or a backslash itself, any character
may stand in the name.

* `ofText_fieldText`, `ofText_elementsText`: the paths that the two texts spell.
* `run_field`, `run_elements_of_array`: what these paths yield for an object. -/

namespace Condition

/-! ### The text of a path to a member -/

namespace Path

/-- One character of a name as it stands between the quotes. -/
def quotedChar (c : Char) : Text := if c = '"' ∨ c = '\\' then ['\\', c] else [c]

/-- The text of the path to the member with a name: a point, and the name in quotes and brackets. -/
def fieldText (name : Text) : Text := '.' :: '[' :: '"' :: (name.flatMap quotedChar ++ ['"', ']'])

/-- The text of the path to the elements of the member with a name. -/
def elementsText (name : Text) : Text := fieldText name ++ ['[', ']']

/-! ### Quoted names -/

theorem takes_readContent_cons {c : Char} (h : ¬(c = '"' ∨ c = '\\')) {text found rest : Text}
    (ht : Takes readContent text found rest) :
    Takes readContent (c :: text) (c :: found) rest := by
  intro offset
  obtain ⟨behind, ht⟩ := ht (offset + c.utf8Size)
  refine ⟨behind, ?_⟩
  rw [not_or] at h
  cases text with
  | nil => cases ht
  | cons d text =>
    change contentFrom (offset + c.utf8Size) (d :: text) = _ at ht
    simp only [readContent, contentFrom, if_neg h.1, if_neg h.2, ht, consFound]

theorem takes_readContent_escape {c plain : Char} (h : unescaped? c = some plain)
    {text found rest : Text} (ht : Takes readContent text found rest) :
    Takes readContent ('\\' :: c :: text) (plain :: found) rest := by
  intro offset
  obtain ⟨behind, ht⟩ := ht (offset + ('\\' : Char).utf8Size + c.utf8Size)
  refine ⟨behind, ?_⟩
  change contentFrom _ text = _ at ht
  simp only [readContent, contentFrom, h, ht, consFound]
  rfl

theorem takes_readContent_quote (rest : Text) : Takes readContent ('"' :: rest) [] rest := by
  intro offset
  refine ⟨offset + ('"' : Char).utf8Size, ?_⟩
  cases rest with
  | nil => rfl
  | cons d rest => rfl

/-- **A quoted name** is read back whatever its characters are. -/
theorem takes_readContent (name rest : Text) :
    Takes readContent (name.flatMap quotedChar ++ '"' :: rest) name rest := by
  induction name with
  | nil => exact takes_readContent_quote rest
  | cons c name ih =>
    rw [List.flatMap_cons, quotedChar]
    split
    · rename_i hc
      exact takes_readContent_escape (by rcases hc with rfl | rfl <;> rfl) ih
    · rename_i hc
      exact takes_readContent_cons hc ih

/-! ### The steps of such a path -/

theorem takes_readBracket {text rest : Text} {step : Path} {c : Char} (hc : Text.isBlank c = false)
    (h : Takes readInBrackets (c :: text) step (']' :: rest)) :
    Takes readBracket ('[' :: c :: text) step rest :=
  (takes_expectNext '[' _).bind <| (takes_skipBlanks hc text).bind <| h.bind <|
    (takes_expect rfl rest).bind (Takes.pure step rest)

theorem takes_readBracket_name (name rest : Text) :
    Takes readBracket ('[' :: '"' :: (name.flatMap quotedChar ++ '"' :: ']' :: rest)) (.field name)
      rest := by
  have hq : Takes readQuoted ('"' :: (name.flatMap quotedChar ++ '"' :: ']' :: rest)) name
      (']' :: rest) := (takes_expectNext '"' _).bind (takes_readContent name _)
  exact takes_readBracket rfl (fun offset => hq.map Path.field offset)

theorem takes_readBracket_elements (rest : Text) :
    Takes readBracket ('[' :: ']' :: rest) .iterate rest :=
  takes_readBracket rfl fun offset => ⟨offset, rfl⟩

/-- **A text that is a member in brackets and further steps** spells the path of these steps. -/
theorem ofText_eq_ok_of_takes {text rest : Text} {step path : Path}
    (h : Takes readBracket ('[' :: text) step rest) (hs : Takes (readSteps [step]) rest path []) :
    ofText ('.' :: '[' :: text) = .ok path := by
  have hfirst : Takes readFirst ('[' :: text) step rest := h
  exact ofText_of_readsText (readsText_point hfirst hs readsText_ends)

/-- **The text of the path to a member** spells the step to that member. -/
theorem ofText_fieldText (name : Text) : ofText (fieldText name) = .ok (.field name) :=
  ofText_eq_ok_of_takes (takes_readBracket_name name []) (takes_readSteps_nil [.field name])

/-- **The text of the path to the elements of a member** spells the step to the member and the one
to all elements behind it. -/
theorem ofText_elementsText (name : Text) :
    ofText (elementsText name) = .ok (.pipe [.field name, .iterate]) := by
  have htext : elementsText name =
      '.' :: '[' :: '"' :: (name.flatMap quotedChar ++ '"' :: ']' :: ['[', ']']) := by
    simp [elementsText, fieldText]
  rw [htext]
  refine ofText_eq_ok_of_takes (takes_readBracket_name name ['[', ']']) ?_
  exact takes_readSteps_bracket (takes_readBracket_elements [])
    (takes_readSteps_nil [.iterate, .field name])

/-! ### What such a path yields -/

theorem run_field (name : Text) (members : List (Text × Json)) :
    run (.field name) (.object members) = [.ok ((members.lookup name).getD .null)] := rfl

/-- The path to the elements of a member that is a list yields these elements in order. -/
theorem run_elements_of_array {name : Text} {members : List (Text × Json)} {items : List Json}
    (h : members.lookup name = some (.array items)) :
    run (.pipe [.field name, .iterate]) (.object members) = items.map .ok := by
  have hstages : outputsOfStages [.field name, .iterate] [.object members] = .ok (items ++ []) := by
    simp only [outputsOfStages, outputsOfEach, outputs, fieldOf, h]
    rfl
  simp only [run, outputs, hstages, List.append_nil, Outcome.ofValues, Option.map_none,
    Option.toList_none]

theorem run_elements_of_none {name : Text} {members : List (Text × Json)}
    (h : members.lookup name = none) :
    run (.pipe [.field name, .iterate]) (.object members) =
      [.error (.unsuited .iterate .null)] := by
  have hstages : outputsOfStages [.field name, .iterate] [.object members] =
      .error (.unsuited .iterate .null) := by
    simp only [outputsOfStages, outputsOfEach, outputs, fieldOf, h]
    rfl
  simp only [run, outputs, hstages]
  rfl

end Path
end Condition
