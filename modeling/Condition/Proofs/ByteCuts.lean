import Condition.Text

/-! # Cuts at byte positions

A text can be cut at a byte position only where a character starts, or at the end (`cutAt?`), and a
piece can be taken out of it only between two such positions (`slice?`).

* `cutAt?_eq_some_iff`: a cut is the rest behind a front that has so many bytes.
* `isSome_cutAt?_iff`: the positions where a text can be cut are the valid positions of the string.
* `slice?_append`: the piece between two positions. -/

namespace Condition.Text

theorem utf8Length_cons (c : Char) (text : Text) :
    utf8Length (c :: text) = c.utf8Size + utf8Length text :=
  utf8Length_append [c] text

theorem utf8ByteSize_ofList (text : Text) :
    (String.ofList text).utf8ByteSize = utf8Length text := by
  induction text with
  | nil => rfl
  | cons c text ih =>
    rw [← List.singleton_append, String.ofList_append, String.utf8ByteSize_append, ih,
      utf8Length_append]
    simp [utf8Length]

/-- **The text behind a byte position**, if a character starts there or the text ends there. -/
def cutAt? : Text → Nat → Option Text
  | [], position => if position = 0 then some [] else none
  | c :: text, position =>
    if position = 0 then some (c :: text)
    else if c.utf8Size ≤ position then cutAt? text (position - c.utf8Size)
    else none

theorem cutAt?_append (front rest : Text) :
    cutAt? (front ++ rest) (utf8Length front) = some rest := by
  induction front with
  | nil => cases rest <;> rfl
  | cons c front ih =>
    have hc : 0 < c.utf8Size := c.utf8Size_pos
    rw [utf8Length_cons, List.cons_append, cutAt?, if_neg (by omega), if_pos (by omega),
      Nat.add_sub_cancel_left, ih]

theorem cutAt?_eq_some_iff {text rest : Text} {position : Nat} :
    cutAt? text position = some rest ↔
      ∃ front, text = front ++ rest ∧ position = utf8Length front := by
  refine ⟨fun h => ?_, ?_⟩
  · induction text generalizing position with
    | nil =>
      rw [cutAt?] at h
      split at h
      · cases h
        exact ⟨[], rfl, by assumption⟩
      · cases h
    | cons c text ih =>
      rw [cutAt?] at h
      split at h
      · cases h
        exact ⟨[], rfl, by assumption⟩
      · split at h
        · obtain ⟨front, htext, hlength⟩ := ih h
          exact ⟨c :: front, by rw [htext]; rfl, by rw [utf8Length_cons]; omega⟩
        · cases h
  · rintro ⟨front, rfl, rfl⟩
    exact cutAt?_append front rest

/-- **Where a text can be cut**: at the valid positions of the string. -/
theorem isSome_cutAt?_iff {text : Text} {position : Nat} :
    (cutAt? text position).isSome ↔ (⟨position⟩ : String.Pos.Raw).IsValid (String.ofList text) := by
  rw [String.Pos.Raw.isValid_ofList, Option.isSome_iff_exists]
  simp only [utf8ByteSize_ofList]
  constructor
  · rintro ⟨rest, h⟩
    obtain ⟨front, rfl, rfl⟩ := cutAt?_eq_some_iff.1 h
    exact ⟨front.length, by rw [List.take_left]⟩
  · rintro ⟨length, h⟩
    refine ⟨text.drop length, cutAt?_eq_some_iff.2 ⟨text.take length, ?_, h⟩⟩
    rw [List.take_append_drop]

/-- **The text between two byte positions**, if it can be cut at both and they are in order. -/
def slice? (text : Text) (start stop : Nat) : Option Text :=
  if start ≤ stop then do
    let piece ← cutAt? text start
    let rest ← cutAt? text stop
    return piece.take (piece.length - rest.length)
  else none

theorem slice?_append (front piece rest : Text) :
    slice? (front ++ (piece ++ rest)) (utf8Length front) (utf8Length (front ++ piece)) =
      some piece := by
  have hstop : cutAt? (front ++ (piece ++ rest)) (utf8Length (front ++ piece)) = some rest := by
    rw [← List.append_assoc, cutAt?_append]
  rw [slice?, if_pos (by rw [utf8Length_append]; omega), cutAt?_append, hstop]
  simp

end Condition.Text
