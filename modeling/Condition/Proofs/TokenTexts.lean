import Condition.Proofs.Brackets
import Condition.Proofs.JsonArrays
import Condition.Proofs.QuotedTexts
import Condition.Proofs.Streams

/-! # Texts of tokens

What is taken from a lookahead depends on the text in front of it only (`StandsAt`), also while a
lexeme waits there. So a token is read from its own text whatever follows, as long as that does not
go on with the token (`Begins`).

* `exists_next_of_cut`: a piece that a text can be cut to is taken from it.
* `begins_name`, `begins_boolean`, `begins_quoted`, `begins_operator`: the texts of tokens.
* `ConsistsOf.cons`: a text that begins with a token consists of it and the tokens of the rest. -/

namespace Condition

/-! ### Words -/

namespace Text

/-- Whether a text is a word. -/
def isWord : Text → Bool
  | [] => false
  | c :: rest => startsWord c && rest.all continuesWord

/-- Nothing at the front of a text continues a word. -/
def StopsWord (text : Text) : Prop := ∀ c ∈ text.head?, continuesWord c = false

theorem stopsWord_nil : StopsWord [] := by
  rintro c ⟨⟩

theorem stopsWord_blank (text : Text) : StopsWord (' ' :: text) := by
  rintro c ⟨⟩
  decide

theorem stopsWord_rightParen (text : Text) : StopsWord (')' :: text) := by
  rintro c ⟨⟩
  decide

/-- The blanks from U+0080 on. -/
def blankRanges : Unicode.Ranges :=
  [(0x85, 0x85), (0xa0, 0xa0), (0x1680, 0x1680), (0x2000, 0x200a), (0x2028, 0x2029),
   (0x202f, 0x202f), (0x205f, 0x205f), (0x3000, 0x3000)]

theorem covers_eq_false_of_apart {ranges others : Unicode.Ranges} {code : Nat}
    (h : (ranges.all fun a => others.all fun b => a.2 < b.1 || b.2 < a.1) = true)
    (hc : others.covers code = true) : ranges.covers code = false := by
  obtain ⟨b, hb, hcode⟩ := List.any_eq_true.1 hc
  refine List.any_eq_false.2 fun a ha hcode' => ?_
  have hapart := List.all_eq_true.1 (List.all_eq_true.1 h a ha) b hb
  simp only [Bool.or_eq_true, Bool.and_eq_true, decide_eq_true_eq] at hapart hcode hcode'
  omega

theorem covers_blankRanges {c : Char} (h : isBlank c = true) (hc : ¬ c.toNat < 0x80) :
    blankRanges.covers c.toNat = true := by
  simp only [isBlank, Bool.or_eq_true, Bool.and_eq_true, decide_eq_true_eq, beq_iff_eq] at h
  simp only [Unicode.Ranges.covers, blankRanges, List.any_cons, List.any_nil, Bool.or_false,
    Bool.or_eq_true, Bool.and_eq_true, decide_eq_true_eq]
  omega

theorem isAlpha_of_isBlank {c : Char} (h : isBlank c = true) (hc : c.toNat < 0x80) :
    c.isAlpha = false := by
  simp only [isBlank, Bool.or_eq_true, Bool.and_eq_true, decide_eq_true_eq, beq_iff_eq] at h
  rw [Bool.eq_false_iff]
  intro ha
  have := Json.toNat_of_isAlpha ha
  omega

/-- No blank from U+0080 on is in a class that lies apart from the blanks. -/
theorem covers_of_isBlank {ranges : Unicode.Ranges} {c : Char} (h : isBlank c = true)
    (hc : ¬ c.toNat < 0x80)
    (hapart : (ranges.all fun a => blankRanges.all fun b => a.2 < b.1 || b.2 < a.1) = true) :
    ranges.covers c.toNat = false :=
  covers_eq_false_of_apart hapart (covers_blankRanges h hc)

theorem isAlphabetic_of_isBlank {c : Char} (h : isBlank c = true) : isAlphabetic c = false := by
  unfold isAlphabetic
  split
  · exact isAlpha_of_isBlank h ‹_›
  · exact covers_of_isBlank h ‹_› (by decide +kernel)

theorem isNumeral_of_isBlank {c : Char} (h : isBlank c = true) : isNumeral c = false := by
  unfold isNumeral
  split
  · exact Json.isDigit_of_isBlank h
  · exact covers_of_isBlank h ‹_› (by decide +kernel)

/-- No blank continues a word. -/
theorem continuesWord_of_isBlank {c : Char} (h : isBlank c = true) : continuesWord c = false := by
  have hne : (c == '_') = false := by
    rw [beq_eq_false_iff_ne]
    rintro rfl
    exact absurd h (by decide)
  rw [continuesWord, isAlphanumeric, isAlphabetic_of_isBlank h, isNumeral_of_isBlank h, hne]
  rfl

/-- No word starts with a blank. -/
theorem isBlank_of_startsWord {c : Char} (h : startsWord c = true) : isBlank c = false := by
  cases hb : isBlank c with
  | false => rfl
  | true =>
    have hw := continuesWord_of_startsWord h
    rw [continuesWord_of_isBlank hb] at hw
    cases hw

end Text

namespace Token

/-- The words that are operators, truth values or `NOT`, in upper case. -/
def keywords : List Text :=
  [['A', 'N', 'D'], ['N', 'A', 'N', 'D'], ['O', 'R'], ['X', 'O', 'R'], ['I', 'N'], ['N', 'O', 'T'],
   ['T', 'R', 'U', 'E'], ['F', 'A', 'L', 'S', 'E']]

/-- Whether a text is a word and no keyword, in whatever case. -/
def isName (text : Text) : Bool := Text.isWord text && !keywords.contains (Text.upper text)

end Token

/-! ### Pieces of a text -/

namespace Source

/-- **A piece that a text can be cut to** is taken from it. -/
theorem exists_next_of_cut {source : Source} {kind : Lexeme.Kind} {taken behind : Text}
    (h : Cut source.skipBlanks.rest kind taken behind) : ∃ lexeme left,
      next source = .ok lexeme left ∧ lexeme.kind = kind ∧ lexeme.text = taken ∧
        left.rest = behind := by
  have hquote : ∀ {c : Char}, c.isDigit = true ∨ Text.startsWord c = true →
      ¬ (c = '"' ∨ c = '\'') := by
    rintro c hc (rfl | rfl) <;> exact absurd hc (by decide)
  unfold next
  dsimp only
  generalize source.skipBlanks = start at h ⊢
  obtain ⟨text, position⟩ := start
  dsimp only at h
  cases h with
  | endOfText => exact ⟨_, _, rfl, rfl, rfl, rfl⟩
  | quoted hq hc =>
    simp only [if_pos hq, hc]
    exact ⟨_, _, rfl, rfl, rfl, rfl⟩
  | integer hd hw =>
    simp only [if_neg (hquote (.inl hd)), dif_pos hd, hw]
    exact ⟨_, _, rfl, rfl, rfl, rfl⟩
  | decimal hd hw =>
    simp only [if_neg (hquote (.inl hd)), dif_pos hd, hw]
    exact ⟨_, _, rfl, rfl, rfl, rfl⟩
  | word hw =>
    have hd := Bool.eq_false_iff.1 (Json.isDigit_of_startsWord hw)
    simp only [if_neg (hquote (.inr hw)), dif_neg hd, if_pos hw]
    exact ⟨_, _, rfl, rfl, rfl, rfl⟩
  | single hq hd hw =>
    simp only [if_neg hq, dif_neg hd, if_neg hw]
    exact ⟨_, _, rfl, rfl, rfl, rfl⟩

theorem next_of_blank {c : Char} (h : Text.isBlank c = true) (text : Text) (position : Nat) :
    next ⟨c :: text, position⟩ = next ⟨text, position + 1⟩ := by
  have hs : skipBlanks ⟨c :: text, position⟩ = skipBlanks ⟨text, position + 1⟩ := by
    simp only [skipBlanks, past, List.takeWhile_cons, List.dropWhile_cons, h, if_true,
      List.length_cons, Source.mk.injEq, true_and]
    omega
  unfold next
  rw [hs]

/-- A word that nothing continues is a piece. -/
theorem cut_word {c : Char} {word rest : Text} (hc : Text.startsWord c = true)
    (hw : ∀ d ∈ word, Text.continuesWord d = true)
    (hr : Text.StopsWord rest) :
    Cut (c :: (word ++ rest)) .word (c :: word) rest := by
  have hcut : Cut (c :: (word ++ rest)) .word (c :: (word ++ rest).takeWhile Text.continuesWord)
      ((word ++ rest).dropWhile Text.continuesWord) := .word hc
  obtain ⟨htake, hdrop⟩ := Text.takeWhile_append_stop hw hr
  rwa [htake, hdrop] at hcut

/-- No blank stands in front of a word. -/
theorem cut_word_dropWhile {word rest : Text} (hw : Text.isWord word = true)
    (hr : Text.StopsWord rest) :
    Cut ((word ++ rest).dropWhile Text.isBlank) .word word rest := by
  cases word with
  | nil => cases hw
  | cons c word =>
    simp only [Text.isWord, Bool.and_eq_true, List.all_eq_true] at hw
    rw [List.cons_append, List.dropWhile_cons, Text.isBlank_of_startsWord hw.1]
    exact cut_word hw.1 hw.2 hr

/-- A numeral is one piece of a text where nothing goes on with it. -/
theorem cut_numeral {n : Numeral} {rest : Text} (h : n.WellFormed) (hw : n.whole ≠ [])
    (hr : Numeral.Stops rest) : Cut (n.spelling ++ rest) (if n.isWhole then .integer else .decimal)
      n.spelling rest := by
  obtain ⟨c, more, hc, hd⟩ : ∃ c more, n.spelling = c :: more ∧ c.isDigit = true := by
    obtain ⟨c, whole, hc⟩ := List.exists_cons_of_ne_nil hw
    exact ⟨c, _, by rw [Numeral.spelling, hc]; rfl,
      h.whole c (by rw [hc]; exact List.mem_cons_self)⟩
  have hread := Numeral.read_append h hr
  rw [hc, List.cons_append] at hread ⊢
  split
  · have hcut : Cut (c :: (more ++ rest)) .integer _ _ := .integer hd (by rw [hread]; assumption)
    simpa only [hread, hc] using hcut
  · have hcut : Cut (c :: (more ++ rest)) .decimal _ _ :=
      .decimal hd (by rw [hread]; exact Bool.eq_false_iff.2 ‹_›)
    simpa only [hread, hc] using hcut

theorem cut_digits {digits rest : Text} (hd : Numeral.IsDigits digits) (hr : Numeral.Stops rest) :
    Cut (digits ++ rest) .integer digits rest := by
  have hformed : Numeral.WellFormed ⟨digits, none, none⟩ :=
    ⟨hd.2, by rintro fraction ⟨⟩, by rintro e ⟨⟩⟩
  have hcut := cut_numeral hformed hd.1 hr
  simpa [Numeral.spelling, Numeral.isWhole] using hcut

/-- What a quote closes does not depend on what follows. -/
theorem closeQuote_append_rest {quote : Char} {text body rest : Text}
    (h : closeQuote quote text = some (body, rest)) (more : Text) :
    closeQuote quote (text ++ more) = some (body, rest ++ more) := by
  fun_induction closeQuote quote text generalizing body with
  | case1 | case3 => cases h
  | case2 =>
    cases h
    cases more <;> simp [closeQuote]
  | case4 =>
    cases h
    simp [closeQuote]
  | case5 d text hq ih =>
    obtain ⟨found, hf, he⟩ := Option.map_eq_some_iff.1 h
    cases he
    simp only [List.cons_append, closeQuote, if_neg hq, if_true, ih hf, Option.map_some]
  | case6 c d text hq hb ih =>
    obtain ⟨found, hf, he⟩ := Option.map_eq_some_iff.1 h
    cases he
    have ih := ih hf
    rw [List.cons_append] at ih
    simp only [List.cons_append, closeQuote, if_neg hq, if_neg hb, ih, Option.map_some]

end Source

/-! ### Lookaheads -/

namespace Lookahead

/-- **Whether a lookahead stands in front of a text**: the next lexeme is the one that a source of
this text gives, whether it waits or not. -/
def StandsAt (s : Lookahead) (text : Text) : Prop :=
  ∃ t, take s = take t ∧ (∀ lexeme, t.slot ≠ .waiting lexeme) ∧ t.source.rest = text

theorem standsAt_ofText (text : Text) : StandsAt (ofText text) text :=
  ⟨ofText text, rfl, by rintro lexeme ⟨⟩, rfl⟩

theorem standsAt_of_slot {s : Lookahead} {lexeme : Lexeme} (h : s.slot = .delivered lexeme) :
    StandsAt s s.source.rest :=
  ⟨s, rfl, by rw [h]; rintro lexeme ⟨⟩, rfl⟩

theorem take_eq_onSource {s : Lookahead} (h : ∀ lexeme, s.slot ≠ .waiting lexeme) :
    take s = onSource Source.next .delivered s := by
  unfold take
  split
  · rename_i lexeme hs
    exact absurd hs (h lexeme)
  · rfl

/-- A blank in front of a text makes no difference. -/
theorem StandsAt.of_blank {s : Lookahead} {c : Char} {text : Text} (h : StandsAt s (c :: text))
    (hc : Text.isBlank c = true) : StandsAt s text := by
  obtain ⟨⟨⟨_, position⟩, slot⟩, ht, hslot, rfl⟩ := h
  refine ⟨⟨⟨text, position + 1⟩, slot⟩, ?_, hslot, rfl⟩
  rw [ht, take_eq_onSource hslot, take_eq_onSource (s := ⟨⟨text, position + 1⟩, slot⟩) hslot]
  simp only [onSource, Source.next_of_blank hc]

theorem StandsAt.of_blanks {s : Lookahead} {blanks text : Text} (h : StandsAt s (blanks ++ text))
    (hb : ∀ c ∈ blanks, Text.isBlank c = true) : StandsAt s text := by
  induction blanks with
  | nil => exact h
  | cons c blanks ih =>
    obtain ⟨hc, hblanks⟩ := List.forall_mem_cons.1 hb
    exact ih (h.of_blank hc) hblanks

/-- The piece that stands in front is taken, and the source then holds the rest. -/
theorem StandsAt.exists_delivered {s : Lookahead} {text taken behind : Text} {kind : Lexeme.Kind}
    (h : StandsAt s text) (hc : Source.Cut (text.dropWhile Text.isBlank) kind taken behind) :
    ∃ lexeme left, take s = .ok lexeme left ∧ lexeme.kind = kind ∧ lexeme.text = taken ∧
      left.slot = .delivered lexeme ∧ left.source.rest = behind := by
  obtain ⟨t, ht, hslot, rfl⟩ := h
  have hc : Source.Cut t.source.skipBlanks.rest kind taken behind := hc
  obtain ⟨lexeme, left, hn, hk, htext, hrest⟩ := Source.exists_next_of_cut hc
  refine ⟨lexeme, ⟨left, .delivered lexeme⟩, ?_, hk, htext, rfl, hrest⟩
  rw [ht, take_eq_onSource hslot]
  simp only [onSource, hn]

/-- The piece that stands in front is taken, and the lookahead then stands in front of the rest. -/
theorem StandsAt.exists_take {s : Lookahead} {text taken behind : Text} {kind : Lexeme.Kind}
    (h : StandsAt s text) (hc : Source.Cut (text.dropWhile Text.isBlank) kind taken behind) :
    ∃ lexeme left, take s = .ok lexeme left ∧ lexeme.kind = kind ∧ lexeme.text = taken ∧
      StandsAt left behind := by
  obtain ⟨lexeme, left, ht, hk, htext, hslot, rfl⟩ := h.exists_delivered hc
  exact ⟨lexeme, left, ht, hk, htext, standsAt_of_slot hslot⟩

/-- A character that starts no longer piece is taken alone. -/
theorem StandsAt.exists_take_single {s : Lookahead} {c : Char} {rest : Text}
    (h : StandsAt s (c :: rest)) (hb : Text.isBlank c = false) (hc : Source.standsAlone c = true) :
    ∃ lexeme left, take s = .ok lexeme left ∧ lexeme.kind = .single c ∧ StandsAt left rest := by
  have hcut : Source.Cut ((c :: rest).dropWhile Text.isBlank) (.single c) [c] rest := by
    rw [List.dropWhile_cons, hb]
    exact Source.cut_single hc rest
  obtain ⟨lexeme, left, ht, hk, -, hleft⟩ := h.exists_take hcut
  exact ⟨lexeme, left, ht, hk, hleft⟩

/-- A lexeme that is put back stands in front again. -/
theorem StandsAt.exists_putBack {s t : Lookahead} {text : Text} {lexeme : Lexeme}
    (h : StandsAt s text) (ht : take s = .ok lexeme t) :
    ∃ u, putBack t = .ok () u ∧ StandsAt u text := by
  obtain ⟨fresh, hf, hslot, hr⟩ := h
  -- the lexeme now waits, so the source alone no longer tells what is taken
  have hp : putBack t = .ok () ⟨t.source, .waiting lexeme⟩ := by
    simp only [putBack, (take_eq_ok ht).1]
  exact ⟨_, hp, fresh, by rw [take_of_putBack ht hp, ← ht, hf], hslot, hr⟩

end Lookahead

namespace Token

open Lookahead Source

/-! ### Tokens -/

/-- **A text begins with a token** in front of a rest. -/
def Begins (text : Text) (token : Token) (rest : Text) : Prop :=
  ∀ s, StandsAt s text → ∃ position left, next s = .ok (token, position) left ∧ StandsAt left rest

/-- A token begins with a piece of the text, and goes on from there. -/
theorem begins_of_cut {text taken behind rest : Text} {kind : Lexeme.Kind} {token : Token}
    (hc : Cut (text.dropWhile Text.isBlank) kind taken behind)
    (h : ∀ first s, first.kind = kind → first.text = taken → StandsAt s behind →
      ∃ left, startingWith first s = .ok token left ∧ StandsAt left rest) :
    Begins text token rest := by
  intro s hs
  obtain ⟨first, t, ht, hk, htext, hstands⟩ := hs.exists_take hc
  obtain ⟨left, hl, hrest⟩ := h first t hk htext hstands
  exact ⟨first.position, left, bind_eq_ok.2 ⟨first, t, ht, bind_eq_ok.2 ⟨token, left, hl, rfl⟩⟩,
    hrest⟩

/-- A token that is one piece of the text. -/
theorem begins_of_piece {text taken rest : Text} {kind : Lexeme.Kind} {token : Token}
    (hc : Cut (text.dropWhile Text.isBlank) kind taken rest)
    (h : ∀ first, first.kind = kind → first.text = taken → startingWith first = pure token) :
    Begins text token rest :=
  begins_of_cut hc fun first s hk ht hs => ⟨s, by rw [h first hk ht]; rfl, hs⟩

theorem Begins.of_blanks {text rest blanks : Text} {token : Token} (h : Begins text token rest)
    (hb : ∀ c ∈ blanks, Text.isBlank c = true) : Begins (blanks ++ text) token rest :=
  fun s hs => h s (hs.of_blanks hb)

/-! ### Parentheses and operands -/

theorem begins_leftParen (rest : Text) : Begins ('(' :: rest) .leftParen rest :=
  begins_of_piece (cut_single (by decide) _) fun first hk _ => by
    simp only [startingWith, hk]

theorem begins_rightParen (rest : Text) : Begins (')' :: rest) .rightParen rest :=
  begins_of_piece (cut_single (by decide) _) fun first hk _ => by
    simp only [startingWith, hk]

/-- A word that is no keyword is a name. -/
theorem ofWord_name {word : Lexeme} (h : Text.upper word.text ∉ keywords) :
    ofWord word = pure (.name word.text) := by
  unfold ofWord
  split
  case h_9 => rfl
  all_goals
    rename_i hw
    rw [hw] at h
    exact absurd h (by decide)

/-- **A name** is a token where nothing continues it. -/
theorem begins_name {name rest : Text} (h : isName name = true)
    (hr : Text.StopsWord rest) : Begins (name ++ rest) (.name name) rest := by
  simp only [isName, Bool.and_eq_true, Bool.not_eq_true', List.contains_eq_mem,
    decide_eq_false_iff_not] at h
  refine begins_of_piece (cut_word_dropWhile h.1 hr) fun first hk ht => ?_
  have hname : ofWord first = pure (.name first.text) := ofWord_name (by rw [ht]; exact h.2)
  rw [ht] at hname
  simp only [startingWith, hk, hname]

/-- A keyword that is a token by itself. -/
theorem begins_keyword {word rest : Text} {token : Token} (hw : Text.isWord word = true)
    (h : ∀ first, first.text = word → ofWord first = pure token)
    (hr : Text.StopsWord rest) : Begins (word ++ rest) token rest :=
  begins_of_piece (cut_word_dropWhile hw hr) fun first hk ht => by
    simp only [startingWith, hk, h first ht]

theorem begins_boolean (b : Bool) {rest : Text}
    (hr : Text.StopsWord rest) :
    Begins (booleanText b ++ rest) (.boolean b) rest := by
  cases b with
  | true =>
    exact begins_keyword (by decide) (fun first ht => by simp only [ofWord, ht]; rfl) hr
  | false =>
    exact begins_keyword (by decide) (fun first ht => by simp only [ofWord, ht]; rfl) hr

/-- **A string** is a token with its quotes, whatever may stand between them. -/
theorem begins_quoted {quote : Char} (hq : quote = '"' ∨ quote = '\'') {text : Text}
    (h : Text.Quotable quote text) (rest : Text) :
    Begins (quote :: (text ++ quote :: rest)) (.string (quote :: (text ++ [quote]))) rest := by
  have hblank : Text.isBlank quote = false := by rcases hq with rfl | rfl <;> decide
  have hcut : Cut ((quote :: (text ++ quote :: rest)).dropWhile Text.isBlank) .quoted
      (quote :: (text ++ [quote])) rest := by
    rw [List.dropWhile_cons, hblank]
    exact .quoted hq (closeQuote_of_quotable (ne_backslash_of_isQuote hq) h rest)
  exact begins_of_piece hcut fun first hk ht => by simp only [startingWith, hk, ht]

/-! ### Operators -/

/-- The first piece of a text is no equals sign. -/
def NoEqual (text : Text) : Prop :=
  ∃ kind taken behind, Cut (text.dropWhile Text.isBlank) kind taken behind ∧ kind ≠ .single '='

theorem NoEqual.of_blank {c : Char} {text : Text} (h : NoEqual text) (hc : Text.isBlank c = true) :
    NoEqual (c :: text) := by
  unfold NoEqual
  rwa [List.dropWhile_cons, if_pos hc]

/-- An operator that is written with one character ends in front of what is no equals sign, which is
looked at and put back. -/
theorem comparison_alone (alone withEqual : Operator) {s : Lookahead} {rest : Text}
    (hs : StandsAt s rest) (hr : NoEqual rest) :
    ∃ left, comparison alone withEqual s = .ok (.operator alone) left ∧ StandsAt left rest := by
  obtain ⟨kind, taken, behind, hc, hk⟩ := hr
  obtain ⟨lexeme, t, ht, hkind, -, -⟩ := hs.exists_take hc
  obtain ⟨left, hp, hleft⟩ := hs.exists_putBack ht
  have hne : ¬ lexeme.isSingle '=' = true := by simpa [Lexeme.isSingle, hkind] using hk
  refine ⟨left, bind_eq_ok.2 ⟨lexeme, t, ht, ?_⟩, hleft⟩
  rw [if_neg hne]
  exact bind_eq_ok.2 ⟨(), left, hp, rfl⟩

theorem comparison_withEqual (alone withEqual : Operator) {s : Lookahead} {rest : Text}
    (hs : StandsAt s ('=' :: rest)) :
    ∃ left, comparison alone withEqual s = .ok (.operator withEqual) left ∧ StandsAt left rest := by
  obtain ⟨lexeme, left, ht, hk, hleft⟩ := hs.exists_take_single rfl (by decide)
  have hequal : lexeme.isSingle '=' = true := by rw [Lexeme.isSingle, hk]; rfl
  refine ⟨left, bind_eq_ok.2 ⟨lexeme, left, ht, ?_⟩, hleft⟩
  rw [if_pos hequal]
  rfl

theorem equalOrTilde_equal (withEqual withTilde : Operator) {s : Lookahead} {rest : Text}
    (hs : StandsAt s ('=' :: rest)) : ∃ left,
      equalOrTilde withEqual withTilde s = .ok (.operator withEqual) left ∧ StandsAt left rest := by
  obtain ⟨lexeme, left, ht, hk, hleft⟩ := hs.exists_take_single rfl (by decide)
  have hequal : lexeme.isSingle '=' = true := by rw [Lexeme.isSingle, hk]; rfl
  refine ⟨left, bind_eq_ok.2 ⟨lexeme, left, ht, ?_⟩, hleft⟩
  rw [if_pos hequal]
  rfl

theorem equalOrTilde_tilde (withEqual withTilde : Operator) {s : Lookahead} {rest : Text}
    (hs : StandsAt s ('~' :: rest)) : ∃ left,
      equalOrTilde withEqual withTilde s = .ok (.operator withTilde) left ∧ StandsAt left rest := by
  obtain ⟨lexeme, left, ht, hk, hleft⟩ := hs.exists_take_single rfl (by decide)
  have hequal : ¬ lexeme.isSingle '=' = true := by rw [Lexeme.isSingle, hk]; decide
  have htilde : lexeme.isSingle '~' = true := by rw [Lexeme.isSingle, hk]; rfl
  refine ⟨left, bind_eq_ok.2 ⟨lexeme, left, ht, ?_⟩, hleft⟩
  rw [if_neg hequal, if_pos htilde]
  rfl

/-- Behind `NOT`, the word `IN` makes one operator with it. -/
theorem behindNot_member (word : Lexeme) {s : Lookahead} {rest : Text}
    (hs : StandsAt s (' ' :: 'I' :: 'N' :: rest))
    (hr : Text.StopsWord rest) :
    ∃ left, behindNot word s = .ok (.operator .notMember) left ∧ StandsAt left rest := by
  have hcut : Cut ((['I', 'N'] ++ rest).dropWhile Text.isBlank) .word ['I', 'N'] rest :=
    cut_word_dropWhile (by decide) hr
  obtain ⟨lexeme, left, ht, -, htext, hleft⟩ := (hs.of_blank rfl).exists_take hcut
  refine ⟨left, bind_eq_ok.2 ⟨lexeme, left, ht, ?_⟩, hleft⟩
  rw [htext]
  rfl

/-- **An operator** is a token where nothing continues its word, and no equals sign follows. -/
theorem begins_operator (op : Operator) {rest : Text} (hr : NoEqual rest)
    (hw : Text.StopsWord rest) :
    Begins (op.symbol ++ rest) (.operator op) rest := by
  cases op with
  | or | xor | and | nand | member =>
    exact begins_keyword (by decide) (fun first ht => by simp only [ofWord, ht]; rfl) hw
  | equal =>
    refine begins_of_cut (cut_single (by decide) _) fun first s hk _ hs => ?_
    simp only [startingWith, hk]
    exact equalOrTilde_equal _ _ hs
  | matching =>
    refine begins_of_cut (cut_single (by decide) _) fun first s hk _ hs => ?_
    simp only [startingWith, hk]
    exact equalOrTilde_tilde _ _ hs
  | notEqual =>
    refine begins_of_cut (cut_single (by decide) _) fun first s hk _ hs => ?_
    simp only [startingWith, hk]
    exact equalOrTilde_equal _ _ hs
  | notMatching =>
    refine begins_of_cut (cut_single (by decide) _) fun first s hk _ hs => ?_
    simp only [startingWith, hk]
    exact equalOrTilde_tilde _ _ hs
  | less | greater =>
    refine begins_of_cut (cut_single (by decide) _) fun first s hk _ hs => ?_
    simp only [startingWith, hk]
    exact comparison_alone _ _ hs hr
  | atMost | atLeast =>
    refine begins_of_cut (cut_single (by decide) _) fun first s hk _ hs => ?_
    simp only [startingWith, hk]
    exact comparison_withEqual _ _ hs
  | notMember =>
    have hcut : Cut ((['N', 'O', 'T'] ++ ' ' :: 'I' :: 'N' :: rest).dropWhile Text.isBlank) .word
        ['N', 'O', 'T'] (' ' :: 'I' :: 'N' :: rest) :=
      cut_word_dropWhile (by decide) (Text.stopsWord_blank _)
    refine begins_of_cut hcut fun first s hk ht hs => ?_
    obtain ⟨left, hl, hleft⟩ := behindNot_member first hs hw
    refine ⟨left, ?_, hleft⟩
    simp only [startingWith, hk, ofWord, ht]
    exact hl

/-! ### Whole texts -/

/-- **A text consists of tokens**, the last of which is the end of the input. -/
def ConsistsOf (text : Text) (tokens : List Token) : Prop :=
  ∀ s, StandsAt s text → listFrom s = .ok tokens

theorem consistsOf_nil : ConsistsOf [] [.endOfInput] := by
  intro s hs
  obtain ⟨first, t, ht, hk, -, -⟩ := hs.exists_take .endOfText
  have hstart : startingWith first t = .ok .endOfInput t := by
    simp only [startingWith, hk]
    rfl
  have hn : next s = .ok (.endOfInput, first.position) t :=
    bind_eq_ok.2 ⟨first, t, ht, bind_eq_ok.2 ⟨.endOfInput, t, hstart, rfl⟩⟩
  exact listFrom_of_endOfInput hn

theorem ConsistsOf.of_blank {c : Char} {text : Text} {tokens : List Token}
    (h : ConsistsOf text tokens) (hc : Text.isBlank c = true) : ConsistsOf (c :: text) tokens :=
  fun s hs => h s (hs.of_blank hc)

theorem ConsistsOf.of_blanks {blanks text : Text} {tokens : List Token} (h : ConsistsOf text tokens)
    (hb : ∀ c ∈ blanks, Text.isBlank c = true) : ConsistsOf (blanks ++ text) tokens :=
  fun s hs => h s (hs.of_blanks hb)

theorem ConsistsOf.cons {text rest : Text} {token : Token} {tokens : List Token}
    (h : ConsistsOf rest tokens) (hb : Begins text token rest) (hne : token ≠ .endOfInput) :
    ConsistsOf text (token :: tokens) := by
  intro s hs
  obtain ⟨position, left, hn, hleft⟩ := hb s hs
  rw [listFrom_of_next hn hne, h left hleft]
  rfl

theorem ConsistsOf.listOf {text : Text} {tokens : List Token} (h : ConsistsOf text tokens) :
    listOf text = .ok tokens :=
  h _ (standsAt_ofText text)

end Token
end Condition
