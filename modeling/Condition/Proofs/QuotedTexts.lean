import Condition.Proofs.Lexemes

/-! # Texts between quotes

A quote is closed by the next one that no backslash takes along. So a text may stand between two
quotes if a scan from the left, for which a backslash and the character behind it are one, meets no
quote and does not end behind a lone backslash (`Quotable`).

* `closeQuote_of_quotable`: what closes a quote; `exists_quotable_of_closeQuote`: what it closes.
* `closeQuote_eq_none_iff`: where nothing does. -/

namespace Condition

/-- **What may stand between two quotes**: a backslash takes the character behind it along, and no
quote stands bare. -/
inductive Text.Quotable (quote : Char) : Text → Prop where
  | nil : Quotable quote []
  | escaped (c : Char) {text : Text} (h : Quotable quote text) : Quotable quote ('\\' :: c :: text)
  | bare {c : Char} {text : Text} (hq : c ≠ quote) (hb : c ≠ '\\') (h : Quotable quote text) :
    Quotable quote (c :: text)

namespace Source

open Text

variable {quote : Char} {text body rest : Text}

/-- Neither quote is a backslash. -/
theorem ne_backslash_of_isQuote (hq : quote = '"' ∨ quote = '\'') : quote ≠ '\\' := by
  rcases hq with rfl | rfl <;> decide

theorem closeQuote_self (quote : Char) (rest : Text) :
    closeQuote quote (quote :: rest) = some ([quote], rest) := by
  cases rest <;> simp only [closeQuote, if_true]

/-- A bare character does not close the quote. -/
theorem closeQuote_cons {c : Char} (hq : c ≠ quote) (hb : c ≠ '\\') (text : Text) :
    closeQuote quote (c :: text) =
      (closeQuote quote text).map fun found => (c :: found.1, found.2) := by
  cases text with
  | nil => simp only [closeQuote, if_neg hq, Option.map_none]
  | cons d text => simp only [closeQuote, if_neg hq, if_neg hb]

theorem closeQuote_escaped (hq : quote ≠ '\\') (c : Char) (text : Text) :
    closeQuote quote ('\\' :: c :: text) =
      (closeQuote quote text).map fun found => ('\\' :: c :: found.1, found.2) := by
  simp only [closeQuote, if_neg hq.symm, if_true]

/-- **The quote behind a quotable text** closes it. -/
theorem closeQuote_of_quotable (hq : quote ≠ '\\') (h : Quotable quote text) (rest : Text) :
    closeQuote quote (text ++ quote :: rest) = some (text ++ [quote], rest) := by
  induction h with
  | nil => exact closeQuote_self quote rest
  | escaped c _ ih =>
    rw [List.cons_append, List.cons_append, closeQuote_escaped hq, ih]
    rfl
  | bare hc hb _ ih =>
    rw [List.cons_append, closeQuote_cons hc hb, ih]
    rfl

/-- What a quote closes is quotable. -/
theorem exists_quotable_of_closeQuote (h : closeQuote quote text = some (body, rest)) :
    ∃ content, Quotable quote content ∧ body = content ++ [quote] ∧
      text = content ++ quote :: rest := by
  fun_induction closeQuote quote text generalizing body with
  | case1 => cases h
  | case2 =>
    cases h
    exact ⟨[], .nil, rfl, rfl⟩
  | case3 => cases h
  | case4 =>
    cases h
    exact ⟨[], .nil, rfl, rfl⟩
  | case5 d text hq ih =>
    obtain ⟨found, hf, he⟩ := Option.map_eq_some_iff.1 h
    cases he
    obtain ⟨content, hc, hbody, rfl⟩ := ih hf
    exact ⟨'\\' :: d :: content, .escaped d hc, by rw [hbody]; rfl, rfl⟩
  | case6 c d text hq hb ih =>
    obtain ⟨found, hf, he⟩ := Option.map_eq_some_iff.1 h
    cases he
    obtain ⟨content, hc, hbody, htext⟩ := ih hf
    exact ⟨c :: content, .bare hq hb hc, by rw [hbody]; rfl, by rw [htext]; rfl⟩

/-- Nothing closes a quote just if it does not stand behind a quotable text. -/
theorem closeQuote_eq_none_iff (hq : quote ≠ '\\') : closeQuote quote text = none ↔
    ∀ content rest, Quotable quote content → text ≠ content ++ quote :: rest := by
  constructor
  · rintro h content rest hc rfl
    rw [closeQuote_of_quotable hq hc] at h
    cases h
  · refine fun h => Option.eq_none_iff_forall_not_mem.2 fun found hf => ?_
    obtain ⟨content, hc, -, htext⟩ := exists_quotable_of_closeQuote hf
    exact h content _ hc htext

/-- A text without the quote and without a backslash is quotable. -/
theorem quotable_of_plain (h : ∀ c ∈ text, c ≠ quote ∧ c ≠ '\\') : Quotable quote text := by
  induction text with
  | nil => exact .nil
  | cons c text ih =>
    obtain ⟨⟨hq, hb⟩, ht⟩ := List.forall_mem_cons.1 h
    exact .bare hq hb (ih ht)

end Source
end Condition
