import Condition.Json.Numbers
import Condition.Pattern.Automata
import Condition.Proofs.Brackets
import Condition.Proofs.JsonArrays
import Condition.Proofs.Operands
import Condition.Query.Path.Basic

/-! # Array literals as JSON

The list of an array literal is read from what was put together of its brackets, and not from the
text between them. For every parser that follows the grammar of JSON, the two are the same array
where no blank was lost that matters (`Faithful`); elsewhere the text is no JSON at all, and the
list is made of pieces that were written apart.

* `read?_content_of_faithful`, `read?_content_eq_none`: the content of brackets as JSON.
* `array_of_brackets`: the text of every array literal that is read. -/

namespace Condition

open Json Lookahead

namespace Bracketed

/-- Only spaces of JSON were lost, and behind the word or integer at the front none but in front of
a comma. -/
structure Faithful (b : Bracketed) : Prop where
  lead : ∀ c ∈ b.lead, isSpace c = true
  gap : ∀ c ∈ b.gap, isSpace c = true
  comma : b.gap = [] ∨ b.rest.head? = some ','

variable {b : Bracketed} {convert : Conversion} (depth : Nat)

/-! ### What follows an integer -/

theorem stops_of_blank {blanks : Text} (hb : ∀ c ∈ blanks, Text.isBlank c = true)
    (hne : blanks ≠ []) (text : Text) : Numeral.Stops (blanks ++ text) := by
  obtain ⟨c, more, rfl⟩ := List.exists_cons_of_ne_nil hne
  exact stops_of_isBlank (hb c List.mem_cons_self) (more ++ text)

theorem stops_of_comma {text : Text} (h : text.head? = some ',') (behind : Text) :
    Numeral.Stops (text ++ behind) := by
  cases text with
  | nil => cases h
  | cons c text =>
    cases h
    rintro d ⟨rfl⟩
    decide

theorem isDigits_of_gap (hf : b.first = [] ∨ Numeral.IsDigits b.first) (hg : b.gap ≠ []) :
    Numeral.IsDigits b.first :=
  hf.resolve_left fun h => hg (b.gap_eq_nil h)

/-! ### The content as JSON -/

/-- Spaces in front of the content make no difference. -/
theorem readArray_lead (hl : ∀ c ∈ b.lead, isSpace c = true) (behind : Text) :
    readArray (reader convert depth) (b.content ++ behind) =
      readArray (reader convert depth) (b.first ++ (b.gap ++ (b.rest ++ behind))) := by
  refine readArray_congr depth ?_
  unfold content
  rw [List.append_assoc, skipSpace_append hl, List.append_assoc, List.append_assoc]

theorem readArray_content_of_faithful (h : b.Faithful)
    (hf : b.first = [] ∨ Numeral.IsDigits b.first) (behind : Text) :
    readArray (reader convert depth) (b.content ++ behind) =
      readArray (reader convert depth) (b.payload ++ behind) := by
  rw [readArray_lead depth h.lead, payload, List.append_assoc]
  by_cases hg : b.gap = []
  · rw [hg]
    rfl
  · have hd := isDigits_of_gap hf hg
    have hcomma := h.comma.resolve_left hg
    rw [readArray_digits depth hd, readArray_digits depth hd,
      readElements_digits depth hd (stops_of_blank b.gap_blank hg _) (stops_of_comma hcomma behind)
        (skipSpace_append h.gap _)]

/-- Behind the integer at the front stands what neither goes on with the array nor ends it. -/
theorem skipSpace_gap (hg : b.gap ≠ []) (hc : (∀ c ∈ b.gap, isSpace c = true) →
    b.rest.head? ≠ some ',') (behind : Text) : ∃ c more,
      skipSpace (b.gap ++ (b.rest ++ behind)) = c :: more ∧ c ≠ ',' ∧ c ≠ ']' := by
  by_cases hs : ∀ c ∈ b.gap, isSpace c = true
  · have hne := b.rest_ne_nil fun hf => hg (b.gap_eq_nil hf)
    obtain ⟨c, more, hr⟩ := List.exists_cons_of_ne_nil hne
    obtain ⟨hblank, hbracket⟩ := b.rest_head c (by rw [hr]; rfl)
    refine ⟨c, more ++ behind, ?_, ?_, hbracket⟩
    · rw [skipSpace_append hs, hr]
      exact skipSpace_cons (isSpace_of_isBlank_false hblank) _
    · rintro rfl
      exact hc hs (by rw [hr]; rfl)
  · obtain ⟨c, more, hskip, hblank, -⟩ := skipSpace_of_blanks b.gap_blank hs (b.rest ++ behind)
    refine ⟨c, more, hskip, ?_, ?_⟩ <;> rintro rfl <;> exact absurd hblank (by decide)

theorem readArray_content_eq_none (h : ¬ b.Faithful)
    (hf : b.first = [] ∨ Numeral.IsDigits b.first) (behind : Text) :
    readArray (reader convert depth) (b.content ++ behind) = none := by
  by_cases hl : ∀ c ∈ b.lead, isSpace c = true
  · rw [readArray_lead depth hl]
    have hg : b.gap ≠ [] := by
      intro hg
      exact h ⟨hl, by rw [hg]; rintro c ⟨⟩, .inl hg⟩
    have hd := isDigits_of_gap hf hg
    obtain ⟨c, more, hskip, hcomma, hbracket⟩ :=
      skipSpace_gap hg (fun hs hc => h ⟨hl, hs, .inr hc⟩) behind
    rw [readArray_digits depth hd, readElements_digits_eq_none depth hd
      (stops_of_blank b.gap_blank hg _) hskip hcomma hbracket]
    rfl
  · obtain ⟨c, more, hskip, hblank, hspace⟩ :=
      skipSpace_of_blanks b.lead_blank hl (b.first ++ (b.gap ++ b.rest) ++ behind)
    have hcontent : skipSpace (b.content ++ behind) = c :: more := by
      rw [← hskip, content, List.append_assoc]
    exact readArray_of_blank depth hcontent hblank hspace

variable [Json.Parser] [Json.Parser.Standard]

/-- **Faithful brackets** are the JSON array that is read from them. -/
theorem read?_content_of_faithful (h : b.Faithful)
    (hf : b.first = [] ∨ Numeral.IsDigits b.first) :
    read? ('[' :: (b.content ++ [']'])) = read? ('[' :: (b.payload ++ [']'])) := by
  obtain ⟨dialect, hr⟩ := Parser.Standard.exists_dialect
  rw [hr, hr]
  exact Dialect.read?_bracket_congr fun depth => readArray_content_of_faithful depth h hf _

/-- Other brackets are no JSON. -/
theorem read?_content_eq_none (h : ¬ b.Faithful)
    (hf : b.first = [] ∨ Numeral.IsDigits b.first) :
    read? ('[' :: (b.content ++ [']'])) = none := by
  obtain ⟨dialect, hr⟩ := Parser.Standard.exists_dialect
  rw [hr]
  exact Dialect.read?_bracket_eq_none fun depth => readArray_content_eq_none depth h hf _

end Bracketed

namespace Expr

section

variable [Pattern.Engine] [Json.Parser] [Json.Parser.Standard] {Q : Type}

/-- An array literal does not start with a word. -/
theorem isDigits_first {b : Bracketed} {list : Expr Q} (h : ofPayload b.payload = .ok list) :
    b.first = [] ∨ Numeral.IsDigits b.first := by
  rcases b.first_cases with hf | hf | ⟨c, hc, hw⟩
  · exact .inl hf
  · exact .inr hf
  · obtain ⟨items, hr, hi⟩ := ofPayload_eq_ok h
    obtain ⟨more, hmore⟩ : ∃ more, b.first = c :: more := List.head?_eq_some_iff.1 hc
    obtain ⟨dialect, hdialect⟩ := Parser.Standard.exists_dialect
    rw [hdialect] at hr
    obtain ⟨depth, rest, ha⟩ := Dialect.exists_readArray_of_read? hr
    rw [Bracketed.payload, hmore] at ha
    obtain ⟨item, hitem, hk⟩ := kind_of_readArray_word depth hw ha
    unfold ofItems at hi
    rw [hitem] at hi
    cases item with
    | null | boolean _ | array _ | object _ => cases hi
    | string _ | number _ => rcases hk with hk | hk <;> cases hk

/-- **Array literals and their text.** An array token stands in the text between its brackets, and
where a list is read from it, its elements are those of a JSON array put together from the text of
the brackets without some blanks. That text is the same array just if the brackets are faithful, and
else it is no JSON. -/
theorem array_of_brackets {text payload : Text} {s left : Lookahead} {position : Nat}
    {list : Expr Q} (hr : Reached text s)
    (hn : Token.next s = .ok (.array payload, position) left) (hp : ofPayload payload = .ok list) :
    ∃ before, ∃ b : Bracketed, ∃ items,
      text = before ++ '[' :: (b.content ++ ']' :: left.source.rest) ∧
      position = before.length ∧ left.source.position = before.length + (b.content.length + 2) ∧
      payload = b.payload ∧ read? ('[' :: (payload ++ [']'])) = some (.array items) ∧
      ofItems items = .ok list ∧
      (read? ('[' :: (b.content ++ [']'])) = some (.array items) ↔ b.Faithful) ∧
      (¬ b.Faithful → read? ('[' :: (b.content ++ [']'])) = none) := by
  obtain ⟨before, b, rfl, htext, hstart, hend⟩ := Token.exists_bracketed hr hn
  have hf := isDigits_first hp
  obtain ⟨items, hread, hitems⟩ := ofPayload_eq_ok hp
  refine ⟨before, b, items, htext, hstart, hend, rfl, hread, hitems, ?_,
    fun h => Bracketed.read?_content_eq_none h hf⟩
  constructor
  · intro h
    by_cases hb : b.Faithful
    · exact hb
    · rw [Bracketed.read?_content_eq_none hb hf] at h
      cases h
  · intro h
    rw [Bracketed.read?_content_of_faithful h hf]
    exact hread

end

/-- A reading that gives a value leaves something. -/
theorem exists_of_run' {ε σ α : Type} {read : EStateM ε σ α} {s : σ} {a : α}
    (h : read.run' s = some a) : ∃ left, read s = .ok a left := by
  unfold EStateM.run' EStateM.run at h
  split at h
  · rename_i found left hr
    cases h
    exact ⟨left, hr⟩
  · cases h

theorem eq_numbers [Pattern.Engine] {Q : Type} {result : Except (Error Q) (Expr Q)}
    {items : List Double}
    (h : (match result with
      | .ok (.numbers found) => decide (found = items)
      | _ => false) = true) : result = .ok (.numbers items) := by
  split at h
  · rw [of_decide_eq_true h]
  · cases h

/-- Spaces in front of a number and of a comma. -/
theorem array_of_spaced_brackets : ∃ left, ∃ list : Expr Path,
    Reached "[ 1 , 2]".toList (Lookahead.ofText "[ 1 , 2]".toList) ∧
    Token.next (Lookahead.ofText "[ 1 , 2]".toList) = .ok (.array "1, 2".toList, 0) left ∧
    ofPayload "1, 2".toList = .ok list ∧
    ∃ before, ∃ b : Bracketed, ∃ items,
      "[ 1 , 2]".toList = before ++ '[' :: (b.content ++ ']' :: left.source.rest) ∧
      0 = before.length ∧ left.source.position = before.length + (b.content.length + 2) ∧
      "1, 2".toList = b.payload ∧ read? ('[' :: ("1, 2".toList ++ [']'])) = some (.array items) ∧
      ofItems items = .ok list ∧
      (read? ('[' :: (b.content ++ [']'])) = some (.array items) ↔ b.Faithful) ∧
      (¬ b.Faithful → read? ('[' :: (b.content ++ [']'])) = none) := by
  obtain ⟨left, hn⟩ : ∃ left, Token.next (Lookahead.ofText "[ 1 , 2]".toList) =
      .ok (.array "1, 2".toList, 0) left := exists_of_run' (by decide +kernel)
  have hp : (ofPayload "1, 2".toList : Except (Error Path) (Expr Path)) =
      .ok (.numbers [.ofInt 1, .ofInt 2]) := eq_numbers (by decide +kernel)
  exact ⟨left, _, .start, hn, hp, array_of_brackets .start hn hp⟩

/-- Two numbers that are written apart become one, in brackets that are no JSON. -/
theorem array_of_separate_numbers : ∃ left,
    Reached "[1 2]".toList (Lookahead.ofText "[1 2]".toList) ∧
    Token.next (Lookahead.ofText "[1 2]".toList) = .ok (.array "12".toList, 0) left ∧
    (ofPayload "12".toList : Except (Error Path) (Expr Path)) = .ok (.numbers [.ofInt 12]) ∧
    read? "[1 2]".toList = none := by
  obtain ⟨left, hn⟩ : ∃ left, Token.next (Lookahead.ofText "[1 2]".toList) =
      .ok (.array "12".toList, 0) left := exists_of_run' (by decide +kernel)
  have hnone : (read? "[1 2]".toList).isNone = true := by decide +kernel
  exact ⟨left, .start, hn, eq_numbers (by decide +kernel), Option.isNone_iff_eq_none.1 hnone⟩

end Expr
end Condition
