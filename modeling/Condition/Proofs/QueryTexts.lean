import Condition.Proofs.Conditions
import Condition.Proofs.Passages

/-! # Conditions that are queries

A query stands in the parentheses of `$jq(…)`, and ends at the one that closes the first. A text in
which the parentheses are balanced (`Balanced`), but for those in quotes, is taken whole, so it is
the query (`begins_query`), and the condition is what the engine makes of it
(`result_ofText_query`). -/

namespace Condition

/-! ### Balanced texts -/

namespace Text

/-- **Texts whose parentheses are balanced**, but for those in strings between double quotes. -/
inductive Balanced : Text → Prop where
  | nil : Balanced []
  | cons {c : Char} {text : Text} (hq : c ≠ '"' ∧ c ≠ '\'') (hp : c ≠ '(' ∧ c ≠ ')')
    (h : Balanced text) : Balanced (c :: text)
  | parens {inner text : Text} (hi : Balanced inner) (h : Balanced text) :
    Balanced ('(' :: (inner ++ ')' :: text))
  | quoted {body text : Text} (hb : Source.closeQuote '"' body = some (body, []))
    (h : Balanced text) : Balanced ('"' :: (body ++ text))

theorem Balanced.append {text rest : Text} (h : Balanced text) (hr : Balanced rest) :
    Balanced (text ++ rest) := by
  induction h with
  | nil => exact hr
  | cons hq hp _ ih => exact .cons hq hp ih
  | @parens inner text hi _ _ ih =>
    rw [List.cons_append, List.append_assoc, List.cons_append]
    exact .parens hi ih
  | quoted hb _ ih =>
    rw [List.cons_append, List.append_assoc]
    exact .quoted hb ih

end Text

namespace Source

/-- **A balanced text** is passed over. -/
theorem passesOver_of_balanced {text : Text} (h : Text.Balanced text) :
    PassesOver '(' ')' text := by
  induction h with
  | nil => exact passesOver_nil
  | cons hq hp _ ih => exact ih.cons ⟨hq, hp⟩
  | parens _ _ ihi ih =>
    have h := (ihi.enclosed (by decide)).append ih
    rwa [List.cons_append, List.append_assoc] at h
  | quoted hb _ ih => exact (passesOver_quoted hb).append ih

end Source

/-! ### The token of a query -/

namespace Token

open Lookahead Source

/-- Where no bracket follows, a query has no mode. -/
theorem queryMode_none (position : Nat) {s : Lookahead} {rest : Text}
    (hs : StandsAt s ('(' :: rest)) :
    ∃ left, queryMode position s = .ok none left ∧ StandsAt left ('(' :: rest) := by
  obtain ⟨lexeme, t, ht, hk, -⟩ :=
    hs.exists_take_single rfl (by decide)
  obtain ⟨left, hp, hleft⟩ := hs.exists_putBack ht
  have hbracket : ¬ lexeme.isSingle '[' = true := by
    rw [Lexeme.isSingle, hk]
    decide
  refine ⟨left, bind_eq_ok.2 ⟨lexeme, t, ht, ?_⟩, hleft⟩
  rw [if_neg hbracket]
  exact bind_eq_ok.2 ⟨(), left, hp, rfl⟩

/-- **A query** is what stands between the parentheses, if these are balanced in it. -/
theorem begins_query {text : Text} (h : Text.Balanced text) (rest : Text) :
    Begins ('$' :: 'j' :: 'q' :: '(' :: (text ++ ')' :: rest)) (.subQuery text none) rest := by
  refine begins_of_cut (cut_single (by decide) _) fun first s hk _ hs => ?_
  have hword : Cut ((['j', 'q'] ++ '(' :: (text ++ ')' :: rest)).dropWhile Text.isBlank)
      .word ['j', 'q'] ('(' :: (text ++ ')' :: rest)) := by
    refine cut_word_dropWhile (by decide) ?_
    rintro c ⟨⟩
    decide
  obtain ⟨word, t, ht, hkind, htext, ht'⟩ := hs.exists_take hword
  obtain ⟨u, hmode, hu⟩ := queryMode_none first.position ht'
  have hparen : Cut (('(' :: (text ++ ')' :: rest)).dropWhile Text.isBlank) (.single '(') ['(']
      (text ++ ')' :: rest) := cut_single (by decide) _
  obtain ⟨opening, v, hv, hok, -, hslot, hrest⟩ := hu.exists_delivered hparen
  obtain ⟨left, hbody, hleft⟩ :=
    exists_takeBalanced hslot hrest (passesOver_of_balanced h) (by decide)
    .subQuery opening.position
  refine ⟨left, ?_, hleft⟩
  simp only [startingWith, hk]
  refine bind_eq_ok.2 ⟨word, t, ht, ?_⟩
  have hinteger : ¬ word.kind = .integer := by rw [hkind]; decide
  have hjq : word.kind = .word ∧ Text.upper word.text = ['J', 'Q'] := ⟨hkind, by rw [htext]; decide⟩
  have hsingle : opening.isSingle '(' = true := by rw [Lexeme.isSingle, hok]; rfl
  rw [if_neg hinteger, if_pos hjq]
  refine bind_eq_ok.2 ⟨none, u, hmode, bind_eq_ok.2 ⟨opening, v, hv, ?_⟩⟩
  rw [if_pos hsingle]
  exact bind_eq_ok.2 ⟨text, left, hbody, rfl⟩

end Token

/-! ### Conditions -/

namespace Expr

/-- The text of a condition that is a query. -/
def queryText (text : Text) : Text := '$' :: 'j' :: 'q' :: '(' :: (text ++ [')'])

theorem listOf_queryText {text : Text} (h : Text.Balanced text) :
    Token.listOf (queryText text) = .ok [.subQuery text none, .endOfInput] :=
  (Token.consistsOf_nil.cons (Token.begins_query h []) (by simp)).listOf

variable [Pattern.Engine] [Json.Parser] {Q : Type} {settings : Settings Q}

/-- **A condition that is a query** is what the engine makes of its text, with the first result
asked for. -/
theorem result_ofText_query {engine : Query.Engine Q} {text : Text} {query : Q}
    (he : settings.engine = some engine) (hb : Text.Balanced text) (hq : engine text = .ok query) :
    (ofText settings (queryText text)).result = .ok (.subQuery text .first query) := by
  have hs : Token.Streams (ReadState.ofText (queryText text)).tokens
      [.subQuery text none, .endOfInput] :=
    Token.streams_ofText (listOf_queryText hb)
  have hl : IsLeaf settings (.subQuery text none) (.subQuery text .first query) :=
    .subQuery none he hq
  obtain ⟨t, hr, ht⟩ := run_operandReader_of_isLeaf hl hs
  exact result_ofText_of_readsChain ⟨t, hr, .stop t⟩ ht

end Expr
end Condition
