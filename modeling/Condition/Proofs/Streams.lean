import Condition.Proofs.Readings

/-! # Streams of tokens

The tokens from a lookahead on (`Streams`) are taken one at a time, and one that ends an expression
can be put back.

* `Streams.exists_next`: the first token of a stream is taken, and the others follow.
* `putBack_next`: behind a token that ends an expression, `putBack` gives a lookahead from which the
  same token is taken.
* `Streams.ofText?_isSome`: a number of the stream is a double. -/

namespace Condition.Token

open Lookahead Numeral

/-! ### Lists of tokens -/

instance : DecidableEq (Except Lexeme.Error (List Token))
  | .ok tokens, .ok others => decidable_of_iff (tokens = others) (by rw [Except.ok.injEq])
  | .error e, .error e' => decidable_of_iff (e = e') (by rw [Except.error.injEq])
  | .ok _, .error _ | .error _, .ok _ => isFalse nofun

theorem listFrom_eq (s : Lookahead) : listFrom s =
    match next s with
    | .error e _ => .error e
    | .ok (token, _) left =>
      if token = .endOfInput then .ok [token] else (listFrom left).map (token :: ·) := by
  rw [listFrom]
  split
  · rename_i h
    simp only [h]
  · rename_i h
    simp only [h]
    split
    · rfl
    · rfl

/-- The tokens from a lookahead on depend on the next one and what it leaves. -/
theorem listFrom_congr {s t : Lookahead} (h : next s = next t) : listFrom s = listFrom t := by
  rw [listFrom_eq s, listFrom_eq t, h]

theorem listFrom_of_next {s left : Lookahead} {token : Token} {position : Nat}
    (h : next s = .ok (token, position) left) (hne : token ≠ .endOfInput) :
    listFrom s = (listFrom left).map (token :: ·) := by
  rw [listFrom_eq, h]
  exact if_neg hne

theorem listFrom_of_endOfInput {s left : Lookahead} {position : Nat}
    (h : next s = .ok (.endOfInput, position) left) : listFrom s = .ok [.endOfInput] := by
  rw [listFrom_eq, h]
  exact if_pos rfl

/-- **A token that ends an expression** can be put back, and is then the next one again. -/
theorem putBack_next {s t : Lookahead} {token : Token} {position : Nat}
    (h : next s = .ok (token, position) t) (he : token.endsExpression = true) :
    ∃ u, putBack t = .ok () u ∧ next u = next s := by
  obtain ⟨first, v, hv, ht⟩ := bind_eq_ok.1 h
  obtain ⟨found, w, hc, hp⟩ := bind_eq_ok.1 ht
  change EStateM.Result.ok (found, first.position) w = .ok (token, position) t at hp
  simp only [EStateM.Result.ok.injEq, Prod.mk.injEq] at hp
  obtain ⟨⟨rfl, rfl⟩, rfl⟩ := hp
  have hw : w = v := eq_of_endsExpression hc he
  subst hw
  have hslot := (take_eq_ok hv).1
  refine ⟨⟨w.source, .waiting first⟩, by simp only [putBack, hslot], ?_⟩
  rw [h]
  refine bind_eq_ok.2 ⟨first, w, ?_, ht⟩
  simp only [take, ← hslot]

/-! ### Numbers among the lexemes -/

/-- The lexeme taken last has the text of a numeral if it is a number. -/
def HoldsNumeral (s : Lookahead) : Prop :=
  ∀ lexeme, s.slot.lexeme? = some lexeme → lexeme.isNumber = true → IsText lexeme.text

theorem isText_next {source left : Source} {lexeme : Lexeme}
    (h : Source.next source = .ok lexeme left) (hn : lexeme.isNumber = true) :
    IsText lexeme.text := by
  simp only [Lexeme.isNumber, Bool.or_eq_true, beq_iff_eq] at hn
  exact (Source.cut_of_next h).1.isText hn

theorem kept_holdsNumeral :
    Kept HoldsNumeral fun lexeme => lexeme.isNumber = true → IsText lexeme.text := by
  refine kept_of_source (I := fun _ held => ∀ lexeme, held = some lexeme →
    lexeme.isNumber = true → IsText lexeme.text) ?_ ?_ ?_ ?_ ?_
  · rintro source held found left - h lexeme ⟨rfl⟩
    exact isText_next h
  · intro source found h
    exact h found rfl
  · rintro _ _ _ _ _ _ _ - - _ ⟨⟩
  · rintro _ _ _ _ _ _ _ _ _ - - _ ⟨⟩
  · intro source held h
    exact h

/-- **A number token** has the text of a number. -/
theorem HoldsNumeral.isNumber {s left : Lookahead} {number : Text} {position : Nat}
    (h : HoldsNumeral s) (hn : next s = .ok (.number number, position) left) : IsNumber number := by
  obtain ⟨first, -, lexeme, hp, hnumber, htext⟩ := ((ensures_next kept_holdsNumeral).ok h hn).2
  obtain ⟨n, hwell, hw, hspelled⟩ := hp hnumber
  rw [hspelled] at htext
  rcases htext with rfl | ⟨rfl, hminus⟩
  · exact .unsigned hwell hw
  · refine .negative hwell hw fun e he hsign => hminus ?_
    simp [spelling, Exponent.spelling, he, hsign]

/-! ### Streams -/

/-- The tokens from a lookahead on. -/
structure Streams (s : Lookahead) (tokens : List Token) : Prop where
  list : listFrom s = .ok tokens
  numeral : HoldsNumeral s

theorem streams_ofText {text : Text} {tokens : List Token} (h : listOf text = .ok tokens) :
    Streams (Lookahead.ofText text) tokens :=
  ⟨h, by rintro lexeme ⟨⟩⟩

/-- **The first token of a stream** is taken, and unless it is the end of the input the others
follow. -/
theorem Streams.exists_next {s : Lookahead} {token : Token} {tokens : List Token}
    (h : Streams s (token :: tokens)) : ∃ position left, next s = .ok (token, position) left ∧
      (token ≠ .endOfInput → Streams left tokens) := by
  have hl := h.list
  rw [listFrom_eq] at hl
  split at hl
  · cases hl
  · rename_i found position left hn
    have hk := ((ensures_next kept_holdsNumeral).ok h.numeral hn).1
    split at hl
    · rename_i he
      cases hl
      exact ⟨position, left, hn, fun hne => absurd he hne⟩
    · cases hf : listFrom left with
      | error e => rw [hf] at hl; cases hl
      | ok others =>
        rw [hf] at hl
        cases hl
        exact ⟨position, left, hn, fun _ => ⟨hf, hk⟩⟩

/-- A token that ends an expression can be put back, and the stream is the same as before. -/
theorem Streams.exists_putBack {s t : Lookahead} {token : Token} {position : Nat}
    {tokens : List Token} (h : Streams s tokens) (hn : next s = .ok (token, position) t)
    (he : token.endsExpression = true) : ∃ u, putBack t = .ok () u ∧ Streams u tokens := by
  obtain ⟨u, hu, hnext⟩ := putBack_next hn he
  have ht := ((ensures_next kept_holdsNumeral).ok h.numeral hn).1
  exact ⟨u, hu, (listFrom_congr hnext).trans h.list,
    (kept_holdsNumeral.putBack.ok ht hu).1⟩

/-- **A number of a stream** is a double. -/
theorem Streams.ofText?_isSome {s : Lookahead} {text : Text} {tokens : List Token}
    (h : Streams s (.number text :: tokens)) : (Double.ofText? text).isSome = true := by
  obtain ⟨position, left, hn, -⟩ := h.exists_next
  exact ofText?_isSome_of_isNumber (h.numeral.isNumber hn)

end Condition.Token
