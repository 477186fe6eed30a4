import Condition.Proofs.Readings

/-! # Places in a text

A lookahead that was reached by taking tokens of a text and putting lexemes back (`Reached`) is at a
place of that text. The lexeme taken last stands right in front of it, unless an error took the rest
of the text away (`Placed`).

* `placed_of_reached`: the places of the lookaheads of a text.
* `exists_split_of_take`: the text around a lexeme that is taken. -/

namespace Condition

open Lookahead

/-- **The lookaheads of a text**: tokens are taken, also behind an error, and put back. -/
inductive Lookahead.Reached (text : Text) : Lookahead → Prop where
  | start : Reached text (Lookahead.ofText text)
  | next {s left : Lookahead} {found : Token × Nat} (h : Reached text s)
    (hn : Token.next s = .ok found left) : Reached text left
  | failed {s left : Lookahead} {e : Lexeme.Error} (h : Reached text s)
    (hn : Token.next s = .error e left) : Reached text left
  | putBack {s left : Lookahead} (h : Reached text s) (hp : putBack s = .ok () left) :
    Reached text left

/-- A lexeme that ends where the text in front of a place does. -/
def Lexeme.EndsText (front : Text) (lexeme : Lexeme) : Prop :=
  ∃ before, front = before ++ lexeme.text ∧ lexeme.position = before.length

/-- The source is at a place of the text, behind the lexeme taken last unless nothing is left. -/
def Source.Placed (text : Text) (source : Source) (held : Option Lexeme) : Prop :=
  ∃ front, text = front ++ source.rest ∧ source.position = front.length ∧
    ∀ lexeme, held = some lexeme → (∀ c, lexeme.kind = .single c → lexeme.text = [c]) ∧
      (source.rest = [] ∨ lexeme.EndsText front)

/-- A lookahead at a place of the text. -/
def Lookahead.Placed (text : Text) (s : Lookahead) : Prop :=
  s.source.Placed text s.slot.lexeme?

/-- **What the readings of tokens keep** holds of all of them, if it does at the start. -/
theorem Lookahead.Kept.of_reached {Inv : Lookahead → Prop} {P : Lexeme → Prop} (h : Kept Inv P)
    {text : Text} (hstart : Inv (Lookahead.ofText text)) {s : Lookahead} (hs : Reached text s) :
    Inv s := by
  induction hs with
  | start => exact hstart
  | next _ hn ih => exact ((Token.ensures_next h).ok ih hn).1
  | failed _ hn ih => exact (Token.ensures_next h).error ih hn
  | putBack _ hp ih => exact (h.putBack.ok ih hp).1

/-! ### Readings move forward -/

/-- Behind a passage the source is at a later place. -/
theorem Source.Placed.of_passage {text body : Text} {source left : Source} {held : Option Lexeme}
    {delimiter : Char} (h : source.Placed text held)
    (hr : source.rest = body ++ delimiter :: left.rest)
    (hp : left.position = source.position + (body.length + 1)) : left.Placed text none := by
  obtain ⟨front, ht, hf, -⟩ := h
  refine ⟨front ++ (body ++ [delimiter]), ?_, ?_, by rintro lexeme ⟨⟩⟩
  · rw [ht, hr, List.append_assoc, List.append_assoc]
    rfl
  · rw [hp, hf]
    simp

theorem kept_placed (text : Text) :
    Kept (Placed text) fun lexeme => ∀ c, lexeme.kind = .single c → lexeme.text = [c] := by
  refine kept_of_source (I := Source.Placed text) ?_ ?_ ?_ ?_ ?_
  · rintro source held found left ⟨front, ht, hf, -⟩ h
    obtain ⟨blanks, -, hr, hp, hl⟩ := Source.next_spelling h
    refine ⟨(front ++ blanks) ++ found.text, ?_, ?_, ?_⟩
    · rw [ht, hr, List.append_assoc, List.append_assoc]
    · rw [hl, hp, hf, List.length_append, List.length_append]
    · rintro lexeme ⟨rfl⟩
      refine ⟨fun c hk => ?_, .inr ⟨front ++ blanks, rfl, ?_⟩⟩
      · exact (hk ▸ (Source.cut_of_next h).1).eq_singleton
      · rw [hp, hf, List.length_append]
  · rintro source found ⟨front, -, -, hl⟩
    exact (hl found rfl).1
  · intro source held closing what start body left hs h
    obtain ⟨hr, -, hp⟩ := Source.takeUntil_spelling h
    exact hs.of_passage hr hp
  · intro source held opening closing depth what start body left hs h
    obtain ⟨hr, hp⟩ := Source.takeBalanced_spelling h
    exact hs.of_passage hr hp
  · rintro source held ⟨front, ht, hf, hl⟩
    refine ⟨text, (List.append_nil text).symm, ?_, fun lexeme hh => ⟨(hl lexeme hh).1, .inl rfl⟩⟩
    rw [ht, List.length_append, ← hf]
    rfl

/-- **Every lookahead of a text** is at a place of it. -/
theorem placed_of_reached {text : Text} {s : Lookahead} (h : Reached text s) : Placed text s :=
  (kept_placed text).of_reached ⟨[], rfl, rfl, by rintro lexeme ⟨⟩⟩ h

/-- A single character that is taken stands in the text where it says, unless nothing is left
behind it. -/
theorem exists_split_of_take {text : Text} {s left : Lookahead} {lexeme : Lexeme} {c : Char}
    (hs : Placed text s) (ht : take s = .ok lexeme left) (hk : lexeme.kind = .single c)
    (hne : left.source.rest ≠ []) : ∃ before, text = before ++ c :: left.source.rest ∧
      lexeme.position = before.length ∧ left.source.position = before.length + 1 := by
  obtain ⟨⟨front, htext, hp, hl⟩, hsingle⟩ := (kept_placed text).take.ok hs ht
  have hslot : left.slot.lexeme? = some lexeme := by rw [(take_eq_ok ht).1]; rfl
  rcases (hl lexeme hslot).2 with hnil | ⟨before, hfront, hpos⟩
  · exact absurd hnil hne
  · rw [hsingle c hk] at hfront
    refine ⟨before, ?_, hpos, ?_⟩
    · rw [htext, hfront, List.append_assoc]
      rfl
    · rw [hp, hfront]
      simp

end Condition
