import Condition.Lexeme.Source
import Condition.Proofs.Numerals

/-! # How a source is cut

Behind blanks, a source is cut by its first character (`Cut`): a quote takes the text up to the one
that closes it, a digit a numeral, a letter a word, and any other character stands alone.

* `cut_of_next`, `next_spelling`: a lexeme is cut from the source behind its blanks.
* `Cut.spelling`: a cut loses nothing.
* `takeUntil_spelling`, `takeBalanced_spelling`: a passage loses its closing delimiter only. -/

namespace Condition

theorem Lexeme.isSingle_iff {lexeme : Lexeme} {c : Char} :
    lexeme.isSingle c = true ↔ lexeme.kind = .single c :=
  beq_iff_eq

namespace Source

open Numeral

/-! ### Lexemes -/

/-- **How a text is cut** in front of a rest: the kind of the piece and its characters. -/
inductive Cut : Text → Lexeme.Kind → Text → Text → Prop where
  | endOfText : Cut [] .endOfText [] []
  | quoted {c : Char} {rest body behind : Text} (hq : c = '"' ∨ c = '\'')
    (h : closeQuote c rest = some (body, behind)) : Cut (c :: rest) .quoted (c :: body) behind
  | integer {c : Char} {rest : Text} (hd : c.isDigit = true)
    (h : (Numeral.read (c :: rest)).1.isWhole = true) :
    Cut (c :: rest) .integer (Numeral.read (c :: rest)).1.spelling (Numeral.read (c :: rest)).2
  | decimal {c : Char} {rest : Text} (hd : c.isDigit = true)
    (h : (Numeral.read (c :: rest)).1.isWhole = false) :
    Cut (c :: rest) .decimal (Numeral.read (c :: rest)).1.spelling (Numeral.read (c :: rest)).2
  | word {c : Char} {rest : Text} (h : Text.startsWord c = true) :
    Cut (c :: rest) .word (c :: rest.takeWhile Text.continuesWord)
      (rest.dropWhile Text.continuesWord)
  | single {c : Char} {rest : Text} (hq : ¬ (c = '"' ∨ c = '\'')) (hd : ¬ c.isDigit = true)
    (hw : ¬ Text.startsWord c = true) : Cut (c :: rest) (.single c) [c] rest

variable {text taken behind : Text} {kind : Lexeme.Kind}

theorem Cut.spelling (h : Cut text kind taken behind) : text = taken ++ behind := by
  cases h with
  | endOfText => rfl
  | quoted _ h => exact congrArg (_ :: ·) (closeQuote_spelling h).1.symm
  | integer | decimal => exact (Numeral.read_spelling _).symm
  | word => exact congrArg (_ :: ·) List.takeWhile_append_dropWhile.symm
  | single => rfl

theorem Cut.ne_nil (h : Cut text kind taken behind) (hk : kind ≠ .endOfText) : taken ≠ [] := by
  cases h with
  | endOfText => exact absurd rfl hk
  | integer hd | decimal hd => exact read_spelling_ne_nil hd
  | quoted | word | single => exact List.cons_ne_nil _ _

/-- A piece starts as the text does. -/
theorem Cut.head?_eq (h : Cut text kind taken behind) : taken.head? = text.head? := by
  have hs := h.spelling
  by_cases hk : kind = .endOfText
  · subst hk
    cases h
    rfl
  · obtain ⟨c, rest, hc⟩ := List.exists_cons_of_ne_nil (h.ne_nil hk)
    rw [hs, hc]
    rfl

theorem Cut.isText (h : Cut text kind taken behind) (hk : kind = .integer ∨ kind = .decimal) :
    IsText taken := by
  cases h with
  | integer hd | decimal hd => exact isText_read hd
  | endOfText | quoted | word | single => rcases hk with hk | hk <;> cases hk

theorem Cut.isDigits (h : Cut text .integer taken behind) : IsDigits taken := by
  cases h with
  | @integer c rest hd hw =>
    have hn := wellFormed_read (c :: rest)
    simp only [isWhole, Bool.and_eq_true, Option.isNone_iff_eq_none] at hw
    have he : (Numeral.read (c :: rest)).1.spelling = (Numeral.read (c :: rest)).1.whole := by
      simp [Numeral.spelling, hw.1, hw.2]
    exact ⟨read_spelling_ne_nil hd, he ▸ hn.whole⟩

theorem Cut.startsWord (h : Cut text .word taken behind) :
    ∃ c, text.head? = some c ∧ Text.startsWord c = true := by
  cases h with
  | word h => exact ⟨_, rfl, h⟩

theorem Cut.eq_singleton {c : Char} (h : Cut text (.single c) taken behind) : taken = [c] := by
  cases h
  rfl

/-- Only the end of the text takes nothing, and it leaves nothing. -/
theorem Cut.eq_nil (h : Cut text .endOfText taken behind) : taken = [] ∧ behind = [] := by
  cases h
  exact ⟨rfl, rfl⟩

/-- Whether a character starts no longer piece: it is no quote, no digit, and no word starts with
it. -/
def standsAlone (c : Char) : Bool := c != '"' && c != '\'' && !c.isDigit && !Text.startsWord c

theorem standsAlone_iff {c : Char} : standsAlone c = true ↔
    ¬ (c = '"' ∨ c = '\'') ∧ ¬ c.isDigit = true ∧ ¬ Text.startsWord c = true := by
  simp only [standsAlone, Bool.and_eq_true, bne_iff_ne, Bool.not_eq_true', Bool.not_eq_true, not_or,
    and_assoc, ne_eq]

theorem cut_single {c : Char} (h : standsAlone c = true) (rest : Text) :
    Cut (c :: rest) (.single c) [c] rest :=
  .single (standsAlone_iff.1 h).1 (standsAlone_iff.1 h).2.1 (standsAlone_iff.1 h).2.2

/-- Such a character is a piece by itself wherever it stands. -/
theorem Cut.kind_eq_single {c : Char} (h : Cut text kind taken behind) (hc : text.head? = some c)
    (ha : standsAlone c = true) : kind = .single c := by
  obtain ⟨hq, hd, hw⟩ := standsAlone_iff.1 ha
  cases h with
  | endOfText => cases hc
  | quoted hquote _ =>
    cases hc
    exact absurd hquote hq
  | integer hdigit | decimal hdigit =>
    cases hc
    exact absurd hdigit hd
  | word hstart =>
    cases hc
    exact absurd hstart hw
  | single =>
    cases hc
    rfl

/-! ### Readings of a source -/

/-- **A lexeme is cut** from the source behind its blanks. -/
theorem cut_of_next {source left : Source} {lexeme : Lexeme} (h : next source = .ok lexeme left) :
    Cut source.skipBlanks.rest lexeme.kind lexeme.text left.rest ∧
      lexeme.position = source.skipBlanks.position ∧
      left.position = lexeme.position + lexeme.text.length := by
  unfold next at h
  dsimp only at h
  split at h
  · rename_i hr
    cases h
    refine ⟨?_, rfl, rfl⟩
    change Cut source.skipBlanks.rest .endOfText [] source.skipBlanks.rest
    rw [hr]
    exact .endOfText
  · rename_i c rest hr
    split at h
    · rename_i hq
      split at h
      · rename_i body behind hclose
        cases h
        exact ⟨hr ▸ .quoted hq hclose, rfl, rfl⟩
      · cases h
    · rename_i hq
      split at h
      · rename_i hd
        cases h
        refine ⟨?_, rfl, rfl⟩
        rw [hr]
        dsimp only
        split
        · exact .integer hd ‹_›
        · exact .decimal hd (Bool.eq_false_iff.2 ‹_›)
      · rename_i hd
        split at h
        · cases h
          exact ⟨hr ▸ .word ‹_›, rfl, rfl⟩
        · cases h
          exact ⟨hr ▸ .single hq hd ‹_›, rfl, rfl⟩

/-- Behind the blanks no blank stands at the front. -/
theorem isBlank_head_skipBlanks {source : Source} {c : Char}
    (h : source.skipBlanks.rest.head? = some c) : Text.isBlank c = false :=
  Text.head?_dropWhile_eq_false h

/-- **What a lexeme takes away**: blanks, and its text. -/
theorem next_spelling {source left : Source} {lexeme : Lexeme} (h : next source = .ok lexeme left) :
    ∃ blanks, (∀ c ∈ blanks, Text.isBlank c = true) ∧
      source.rest = blanks ++ (lexeme.text ++ left.rest) ∧
      lexeme.position = source.position + blanks.length ∧
      left.position = lexeme.position + lexeme.text.length := by
  obtain ⟨hc, hp, hl⟩ := cut_of_next h
  refine ⟨source.rest.takeWhile Text.isBlank, fun _ => Text.mem_takeWhile, ?_, hp, hl⟩
  rw [← hc.spelling]
  exact List.takeWhile_append_dropWhile.symm

theorem isBlank_head_next {source left : Source} {lexeme : Lexeme}
    (h : next source = .ok lexeme left) {c : Char} (hc : lexeme.text.head? = some c) :
    Text.isBlank c = false := by
  rw [(cut_of_next h).1.head?_eq] at hc
  exact isBlank_head_skipBlanks hc

theorem takeUntil_spelling {closing : Char} {what : Passage} {start : Nat} {source left : Source}
    {body : Text} (h : takeUntil closing what start source = .ok body left) :
    source.rest = body ++ closing :: left.rest ∧ closing ∉ body ∧
      left.position = source.position + (body.length + 1) := by
  unfold takeUntil at h
  dsimp only at h
  split at h
  · cases h
  · rename_i delimiter rest hd
    cases h
    have hs := List.takeWhile_append_dropWhile (p := (· ≠ closing)) (l := source.rest)
    have hhead := Text.head?_dropWhile_eq_false (f := (· ≠ closing)) (congrArg List.head? hd)
    obtain rfl : delimiter = closing := by simpa using hhead
    rw [hd] at hs
    refine ⟨hs.symm, fun hm => ?_, by simp [past]⟩
    simpa using Text.mem_takeWhile hm

theorem balanced_spelling {opening closing : Char} {depth offset : Nat} {text body rest : Text}
    (h : balanced opening closing depth offset text = .ok (body, rest)) :
    text = body ++ closing :: rest := by
  fun_induction balanced opening closing depth offset text generalizing body with
  | case1 => cases h
  | case2 => cases h
  | case3 depth offset c behind hq inner after hc ih =>
    cases hb : balanced opening closing depth (offset + inner.length + 1) after with
    | error e => simp [hb, Except.map] at h
    | ok found =>
      simp only [hb, Except.map, Except.ok.injEq, Prod.mk.injEq] at h
      obtain ⟨rfl, rfl⟩ := h
      rw [List.cons_append, List.append_assoc, ← ih hb, (closeQuote_spelling hc).1]
  | case4 depth offset c behind hq hc =>
    simp only [Except.ok.injEq, Prod.mk.injEq] at h
    obtain ⟨rfl, rfl⟩ := h
    rw [hc.1]
    rfl
  | case5 depth offset c behind hq hc ih =>
    cases hb : balanced opening closing (levelsBehind opening closing depth c) (offset + 1)
        behind with
    | error e => simp [hb, Except.map] at h
    | ok found =>
      simp only [hb, Except.map, Except.ok.injEq, Prod.mk.injEq] at h
      obtain ⟨rfl, rfl⟩ := h
      rw [List.cons_append, ← ih hb]

theorem takeBalanced_spelling {opening closing : Char} {depth : Nat} {what : Passage} {start : Nat}
    {source left : Source} {body : Text}
    (h : takeBalanced opening closing depth what start source = .ok body left) :
    source.rest = body ++ closing :: left.rest ∧
      left.position = source.position + (body.length + 1) := by
  unfold takeBalanced at h
  split at h
  · rename_i hb
    cases h
    exact ⟨balanced_spelling hb, by simp [past]⟩
  · cases h
  · cases h

/-! ### What is left of a source -/

theorem suffix_of_next {source left : Source} {lexeme : Lexeme}
    (h : next source = .ok lexeme left) : lexeme.text ++ left.rest <:+ source.rest := by
  obtain ⟨blanks, -, hr, -⟩ := next_spelling h
  rw [hr]
  exact List.suffix_append _ _

theorem suffix_of_takeUntil {closing : Char} {what : Passage} {start : Nat} {source left : Source}
    {body : Text} (h : takeUntil closing what start source = .ok body left) :
    left.rest <:+ source.rest := by
  rw [(takeUntil_spelling h).1]
  exact (List.suffix_cons _ _).trans (List.suffix_append _ _)

theorem suffix_of_takeBalanced {opening closing : Char} {depth : Nat} {what : Passage} {start : Nat}
    {source left : Source} {body : Text}
    (h : takeBalanced opening closing depth what start source = .ok body left) :
    left.rest <:+ source.rest := by
  rw [(takeBalanced_spelling h).1]
  exact (List.suffix_cons _ _).trans (List.suffix_append _ _)

/-! ### Errors -/

theorem atEnd_skipBlanks (source : Source) : source.skipBlanks.atEnd = source.atEnd := by
  have h := congrArg List.length
    (List.takeWhile_append_dropWhile (p := Text.isBlank) (l := source.rest))
  rw [List.length_append] at h
  simp only [skipBlanks, atEnd, past, Source.mk.injEq, true_and]
  omega

/-- An error takes the whole rest away. -/
theorem eq_atEnd_of_next {source left : Source} {e : Lexeme.Error}
    (h : next source = .error e left) : left = source.atEnd := by
  rw [← atEnd_skipBlanks]
  unfold next at h
  dsimp only at h
  split at h
  · cases h
  · split at h
    · split at h
      · cases h
      · cases h
        rfl
    · split at h
      · cases h
      · split at h
        · cases h
        · cases h

/-- No lexeme is taken where a quote stands behind the blanks that nothing closes. -/
theorem exists_quote_of_next {source left : Source} {e : Lexeme.Error}
    (h : next source = .error e left) : ∃ quote rest, source.skipBlanks.rest = quote :: rest ∧
      (quote = '"' ∨ quote = '\'') ∧ closeQuote quote rest = none ∧
      e = .unterminated .stringLiteral source.skipBlanks.position := by
  unfold next at h
  dsimp only at h
  split at h
  · cases h
  · rename_i c rest hr
    split at h
    · rename_i hq
      split at h
      · cases h
      · rename_i hc
        cases h
        exact ⟨c, rest, hr, hq, hc, rfl⟩
    · split at h
      · cases h
      · split at h
        · cases h
        · cases h

/-- **What an error leaves**: blanks, and a quote that nothing closes. -/
theorem next_error_spelling {source left : Source} {e : Lexeme.Error}
    (h : next source = .error e left) : ∃ blanks quote rest,
      (∀ c ∈ blanks, Text.isBlank c = true) ∧ source.rest = blanks ++ quote :: rest ∧
      (quote = '"' ∨ quote = '\'') ∧ closeQuote quote rest = none ∧
      e = .unterminated .stringLiteral (source.position + blanks.length) := by
  obtain ⟨quote, rest, hr, hq, hc, he⟩ := exists_quote_of_next h
  refine ⟨source.rest.takeWhile Text.isBlank, quote, rest, fun _ => Text.mem_takeWhile,
    ?_, hq, hc, he⟩
  rw [← hr]
  exact List.takeWhile_append_dropWhile.symm

theorem eq_unterminated_of_takeUntil {closing : Char} {what : Passage} {start : Nat}
    {source left : Source} {e : Lexeme.Error}
    (h : takeUntil closing what start source = .error e left) : e = .unterminated what start := by
  unfold takeUntil at h
  dsimp only at h
  split at h
  · cases h
    rfl
  · cases h

theorem exists_unterminated_of_takeBalanced {opening closing : Char} {depth : Nat} {what : Passage}
    {start : Nat} {source left : Source} {e : Lexeme.Error}
    (h : takeBalanced opening closing depth what start source = .error e left) :
    ∃ found place, e = .unterminated found place := by
  unfold takeBalanced at h
  split at h
  · cases h
  · cases h
    exact ⟨_, _, rfl⟩
  · cases h
    exact ⟨_, _, rfl⟩

theorem eq_atEnd_of_takeUntil {closing : Char} {what : Passage} {start : Nat}
    {source left : Source} {e : Lexeme.Error}
    (h : takeUntil closing what start source = .error e left) : left = source.atEnd := by
  unfold takeUntil at h
  dsimp only at h
  split at h
  · cases h
    rfl
  · cases h

theorem eq_atEnd_of_takeBalanced {opening closing : Char} {depth : Nat} {what : Passage}
    {start : Nat} {source left : Source} {e : Lexeme.Error}
    (h : takeBalanced opening closing depth what start source = .error e left) :
    left = source.atEnd := by
  unfold takeBalanced at h
  split at h
  · cases h
  · cases h
    rfl
  · cases h
    rfl

end Source
end Condition
