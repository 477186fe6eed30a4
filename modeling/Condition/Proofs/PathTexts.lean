import Condition.Proofs.PathGrammar

/-! # Texts of paths

A path of steps in brackets can be written whatever its names and indices are: a name in quotes,
with a backslash in front of each quote and each backslash in it, an index in base ten, and nothing
for all elements (`stepsText`). The text spells these steps, and it is the query of the condition in
which it stands, with every parenthesis, quote and backslash in its names.

* `ofText_stepsText`: the path that such a text spells.
* `result_ofText_of_path`: every text that spells a path as the query of a condition.
* `query_of_steps`: the text and its path as a query of a condition. -/

namespace Condition

namespace Path

/-! ### Steps and their texts -/

/-- What a step in brackets leads to. -/
inductive Target where
  | member (name : Text)
  | element (place : Int64)
  | all

/-- The text of a target, as it stands in brackets. -/
def Target.text : Target → Text
  | .member name => '"' :: (name.flatMap quotedChar ++ ['"'])
  | .element place => indexText (decide (place.toInt < 0)) (Text.ofNat place.toInt.natAbs)
  | .all => []

/-- The path to a target. -/
def Target.path : Target → Path
  | .member name => .field name
  | .element place => .index place.toInt
  | .all => .iterate

/-- **A step in brackets**, with a number of question marks behind it. -/
structure Step where
  target : Target
  marks : Nat

/-- The text of a step. -/
def Step.text (step : Step) : Text :=
  '[' :: (step.target.text ++ ']' :: List.replicate step.marks '?')

/-- The path of a step: optional once for each question mark. -/
def Step.path (step : Step) : Path := Nat.iterate .optional step.marks step.target.path

/-- The text of a path of steps. -/
def stepsText (steps : List Step) : Text := '.' :: steps.flatMap Step.text

/-! ### Indices -/

theorem digitsValue_ofNat (n : Nat) : Text.digitsValue (Text.ofNat n) = n := by
  rw [Text.digitsValue, ← Nat.ofDigitChars_eq_foldl, Text.ofNat, Nat.ofDigitChars_ten_toDigits]

theorem isDigit_of_mem_ofNat {n : Nat} {c : Char} (h : c ∈ Text.ofNat n) : c.isDigit = true :=
  Nat.isDigit_of_mem_toDigits (by decide) (by decide) h

/-- **Every index of 64 bits** is spelled by its text. -/
theorem indexOf?_ofNat (place : Int64) :
    indexOf? (decide (place.toInt < 0)) (Text.ofNat place.toInt.natAbs) = some place.toInt := by
  have hlow := place.le_toInt
  have hhigh := place.toInt_lt
  have hne : (Text.ofNat place.toInt.natAbs).isEmpty = false :=
    List.isEmpty_eq_false_iff.2 Nat.toDigits_ne_nil
  have hsign : (if decide (place.toInt < 0) then -((place.toInt.natAbs : Nat) : Int)
      else (place.toInt.natAbs : Nat)) = place.toInt := by
    by_cases hn : place.toInt < 0
    · rw [if_pos (decide_eq_true hn)]
      omega
    · rw [if_neg (by simpa using hn)]
      omega
  simp only [indexOf?, hne, digitsValue_ofNat, hsign, Bool.false_eq_true, if_false]
  exact if_pos ⟨hlow, hhigh⟩

theorem takes_readInBrackets_index {c : Char} {text rest : Text} {place : Int}
    (hc : c = '-' ∨ c.isDigit = true) (h : Takes readIndex (c :: text) place rest) :
    Takes readInBrackets (c :: text) (.index place) rest := by
  have hother : c ≠ ']' ∧ c ≠ '"' := by
    rcases hc with rfl | hc
    · decide
    · constructor <;> rintro rfl <;> exact absurd hc (by decide)
  intro offset
  obtain ⟨behind, h⟩ := h.map Path.index offset
  refine ⟨behind, ?_⟩
  simp only [readInBrackets, if_neg hother.1, if_neg hother.2, if_pos hc]
  exact h

theorem takes_readBracket_index (place : Int64) (rest : Text) :
    Takes readBracket ('[' :: ((Target.element place).text ++ ']' :: rest))
      (.index place.toInt) rest := by
  have hindex : Takes readIndex ((Target.element place).text ++ ']' :: rest) place.toInt
      (']' :: rest) := by
    refine takes_readIndex (fun c => isDigit_of_mem_ofNat) (indexOf?_ofNat place) ?_
    rintro c ⟨⟩
    decide
  -- the text starts with the sign or a digit, so that it is an index
  obtain ⟨c, text, htext, hc⟩ : ∃ c text, (Target.element place).text = c :: text ∧
      (c = '-' ∨ c.isDigit = true) := by
    obtain ⟨d, digits, hdigits⟩ := List.exists_cons_of_ne_nil
      (Nat.toDigits_ne_nil : Text.ofNat place.toInt.natAbs ≠ [])
    simp only [Target.text, indexText]
    split
    · exact ⟨'-', _, rfl, .inl rfl⟩
    · exact ⟨d, digits, hdigits, .inr (isDigit_of_mem_ofNat (hdigits ▸ List.mem_cons_self))⟩
  have hblank : Text.isBlank c = false := by
    rcases hc with rfl | hc
    · decide
    · exact Bool.eq_false_iff.2 fun hb => Bool.eq_false_iff.1 (Json.isDigit_of_isBlank hb) hc
  rw [htext, List.cons_append] at hindex ⊢
  exact takes_readBracket hblank (takes_readInBrackets_index hc hindex)

/-! ### The path of a text of steps -/

theorem takes_readBracket_target (target : Target) (rest : Text) :
    Takes readBracket ('[' :: (target.text ++ ']' :: rest)) target.path rest := by
  cases target with
  | member name =>
    have h := takes_readBracket_name name rest
    rw [List.append_cons _ '"', ← List.cons_append] at h
    exact h
  | element place => exact takes_readBracket_index place rest
  | all => exact takes_readBracket_elements rest

/-- **The steps of a text** follow those that were read in front of it. -/
theorem takes_readSteps_steps (steps : List Step) (done : List Path) :
    Takes (readSteps done) (steps.flatMap Step.text)
      (sequence (done.reverse ++ steps.map Step.path)) [] := by
  induction steps generalizing done with
  | nil =>
    rw [List.flatMap_nil, List.map_nil, List.append_nil]
    exact takes_readSteps_nil done
  | cons step steps ih =>
    have hrest := ih (step.path :: done)
    rw [List.reverse_cons, List.append_assoc, List.singleton_append, ← List.map_cons] at hrest
    rw [List.flatMap_cons, Step.text, List.cons_append, List.append_assoc, List.cons_append]
    exact takes_readSteps_bracket (takes_readBracket_target step.target _)
      (takes_readSteps_marks step.marks hrest)

theorem ofText_stepsText (step : Step) (steps : List Step) :
    ofText (stepsText (step :: steps)) = .ok (sequence ((step :: steps).map Step.path)) := by
  have hsteps := takes_readSteps_steps steps [step.path]
  have hfirst := takes_readBracket_target step.target
    (List.replicate step.marks '?' ++ steps.flatMap Step.text)
  rw [stepsText, List.flatMap_cons, Step.text, List.cons_append, List.append_assoc,
    List.cons_append]
  exact ofText_eq_ok_of_takes hfirst (takes_readSteps_marks step.marks hsteps)

example : stepsText [⟨.member "(\"\\".toList, 1⟩, ⟨.element (-9223372036854775808), 0⟩, ⟨.all, 2⟩] =
    ".[\"(\\\"\\\\\"]?[-9223372036854775808][]??".toList := by decide

end Path

namespace Expr

variable [Pattern.Engine] [Json.Parser]

/-- **Every text that spells a path** is the query of a condition: what closes the query is the
parenthesis behind that text, whatever stands in its quoted names. -/
theorem result_ofText_of_path (settings : Settings Path) {text : Text} {path : Path}
    (h : Path.ofText text = .ok path) :
    (ofText { settings with engine := some Path.ofText } (queryText text)).result =
      .ok (.subQuery text .first path) :=
  result_ofText_query rfl (Path.balanced_of_ofText h) h

/-- **Every path of steps** can be written: its text spells just these steps, and the condition with
this text in the parentheses of a query is the query with this source, in first mode and with this
path. -/
theorem query_of_steps (settings : Settings Path) (step : Path.Step) (steps : List Path.Step) :
    let text := Path.stepsText (step :: steps)
    let path := Path.sequence ((step :: steps).map Path.Step.path)
    Path.ofText text = .ok path ∧
      (ofText { settings with engine := some Path.ofText } (queryText text)).result =
        .ok (.subQuery text .first path) := by
  intro text path
  have h : Path.ofText text = .ok path := Path.ofText_stepsText step steps
  exact ⟨h, result_ofText_of_path settings h⟩

end Expr
end Condition
