import Condition.Proofs.Enclosures
import Condition.Proofs.Placement

/-! # What leaves a text open

An error about a passage without an end names the place of the delimiter that opens it. That
delimiter is the culprit: nothing in the rest of the text closes it (`Passage.LeftOpen`). An array
is looked into before it is read as a passage, and what was looked at belongs to it.

* `eq_unterminated_of_takeBalanced`: what an open passage leaves open, from the delimiter or inside
  it.
* `Token.blames_next`: the reading of a token blames the culprit.
* `Token.unterminated_points_at_culprit`: the errors of whole texts. -/

namespace Condition

open Lookahead Source

/-! ### Delimiters that nothing closes -/

/-- **Levels that stay open**: a scan of the whole text, in which one level is open at first, never
comes outside. -/
def Source.NeverCloses (opening closing : Char) (text : Text) : Prop :=
  ∃ pieces, StaysInside opening closing 1 pieces ∧ pieces.flatten = text

/-- **A passage that is left open** behind its opening delimiter: no quote ends the string, no slash
the pattern, and the levels of brackets or parentheses never come to an end. -/
def Passage.LeftOpen (opening : Char) (rest : Text) : Passage → Prop
  | .stringLiteral => (opening = '"' ∨ opening = '\'') ∧
      ∀ content behind, Text.Quotable opening content → rest ≠ content ++ opening :: behind
  | .pattern => opening = '/' ∧ '/' ∉ rest
  | .subQuery => opening = '(' ∧ NeverCloses '(' ')' rest
  | .arrayLiteral => opening = '[' ∧ NeverCloses '[' ']' rest
  | .text => False

/-- **An error points at the culprit** in a text: if a passage has no end, its opening delimiter
stands at the place of the error, and is left open. -/
def Lexeme.Error.PointsAt (text : Text) (e : Lexeme.Error) : Prop :=
  ∀ what position, e = .unterminated what position → ∃ before opening rest,
    text = before ++ opening :: rest ∧ position = before.length ∧ what.LeftOpen opening rest

theorem leftOpen_of_closeQuote {quote : Char} {rest : Text} (hq : quote = '"' ∨ quote = '\'')
    (h : closeQuote quote rest = none) : Passage.LeftOpen quote rest .stringLiteral :=
  ⟨hq, (closeQuote_eq_none_iff (ne_backslash_of_isQuote hq)).1 h⟩

/-! ### Texts that a scan goes over -/

namespace Source

/-- **A text that a scan goes over**, from a number of open levels to another. -/
def GoesOver (opening closing : Char) (depth behind : Int) (text : Text) : Prop :=
  ∃ pieces, StaysInside opening closing depth pieces ∧ pieces.flatten = text ∧
    openLevels opening closing depth pieces = behind

variable {opening closing : Char} {depth between behind : Int} {text more : Text}

theorem goesOver_nil (h : 1 ≤ depth) : GoesOver opening closing depth depth [] :=
  ⟨[], staysInside_nil h, rfl, openLevels_nil depth⟩

theorem GoesOver.cons {piece : Text} (hp : IsPiece piece) (hd : 1 ≤ depth)
    (h : GoesOver opening closing (openLevels opening closing depth [piece]) behind text) :
    GoesOver opening closing depth behind (piece ++ text) := by
  obtain ⟨pieces, hi, rfl, rfl⟩ := h
  exact ⟨piece :: pieces, staysInside_cons_iff.2 ⟨hp, hd, hi⟩, rfl,
    openLevels_cons depth piece pieces⟩

theorem GoesOver.append (h : GoesOver opening closing depth between text)
    (hm : GoesOver opening closing between behind more) :
    GoesOver opening closing depth behind (text ++ more) := by
  obtain ⟨pieces, hi, rfl, hb⟩ := h
  induction pieces generalizing depth with
  | nil =>
    rw [openLevels_nil] at hb
    rwa [hb]
  | cons piece pieces ih =>
    obtain ⟨hp, hd, hrest⟩ := staysInside_cons_iff.1 hi
    rw [openLevels_cons] at hb
    rw [List.flatten_cons, List.append_assoc]
    exact (ih hrest hb).cons hp hd

theorem GoesOver.neverCloses (h : GoesOver opening closing 1 behind text) :
    NeverCloses opening closing text := by
  obtain ⟨pieces, hi, ht, -⟩ := h
  exact ⟨pieces, hi, ht⟩

/-- A text without quotes and delimiters leaves the levels alone. -/
theorem goesOver_plain (hne : opening ≠ closing) (hd : 1 ≤ depth)
    (h : ∀ c ∈ text, IsPlain opening closing c) : GoesOver opening closing depth depth text := by
  induction text with
  | nil => exact goesOver_nil hd
  | cons c text ih =>
    obtain ⟨⟨hq, ho, hc⟩, ht⟩ := List.forall_mem_cons.1 h
    have hlevels : openLevels opening closing depth [[c]] = depth := by
      rw [openLevels_single hne, if_neg hc, if_neg ho]
    have hrest := ih ht
    exact GoesOver.cons (.single hq) hd (by rwa [hlevels])

theorem goesOver_piece {piece : Text} (hp : IsPiece piece) (hd : 1 ≤ depth)
    (hl : openLevels opening closing depth [piece] = behind) (hb : 1 ≤ behind) :
    GoesOver opening closing depth behind piece := by
  subst hl
  have h := (goesOver_nil hb).cons hp hd
  rwa [List.append_nil] at h

/-- What keeps a passage open to the end: a scan goes over all of it, or up to a quote that stays
open. -/
theorem eq_error_of_balanced {depth : Nat} {e : Unclosed} (hd : AreDelimiters opening closing)
    (hone : 1 ≤ depth) (h : balanced opening closing depth 0 text = .error e) :
    (e = .delimiter ∧ ∃ behind, GoesOver opening closing depth behind text) ∨
    ∃ inside quote tail, text = inside ++ quote :: tail ∧ (quote = '"' ∨ quote = '\'') ∧
      closeQuote quote tail = none ∧ e = .quote inside.length := by
  cases scan hd.1 hone text with
  | closed he rest =>
    rw [balanced_of_encloses hd he] at h
    cases h
  | @unclosed pieces hi =>
    rw [balanced_of_staysInside hd.1 hi] at h
    cases h
    exact .inl ⟨rfl, _, pieces, hi, rfl, rfl⟩
  | @unclosedQuote pieces hi quote hq tail hc =>
    rw [balanced_of_unclosedQuote hd.1 hi hq hc, Nat.zero_add] at h
    cases h
    exact .inr ⟨pieces.flatten, quote, tail, rfl, hq, hc, rfl⟩

/-- **What an open passage leaves open**: its own delimiter, or a quote inside it. -/
theorem eq_unterminated_of_takeBalanced {depth : Nat} {what : Passage} {start : Nat}
    {source left : Source} {e : Lexeme.Error} (hd : AreDelimiters opening closing)
    (hone : 1 ≤ depth) (h : takeBalanced opening closing depth what start source = .error e left) :
    (e = .unterminated what start ∧ ∃ behind, GoesOver opening closing depth behind source.rest) ∨
    ∃ inside quote tail, source.rest = inside ++ quote :: tail ∧ (quote = '"' ∨ quote = '\'') ∧
      closeQuote quote tail = none ∧
      e = .unterminated .stringLiteral (source.position + inside.length) := by
  unfold takeBalanced at h
  split at h
  · cases h
  · rename_i hb
    cases h
    rcases eq_error_of_balanced hd hone hb with ⟨-, hover⟩ | ⟨_, _, _, -, -, -, he⟩
    · exact .inl ⟨rfl, hover⟩
    · cases he
  · rename_i offset hb
    cases h
    rcases eq_error_of_balanced hd hone hb with ⟨he, -⟩ | ⟨inside, quote, tail, hr, hq, hc, he⟩
    · cases he
    · cases he
      exact .inr ⟨inside, quote, tail, hr, hq, hc, rfl⟩

theorem not_mem_of_takeUntil {closing : Char} {what : Passage} {start : Nat} {source left : Source}
    {e : Lexeme.Error} (h : takeUntil closing what start source = .error e left) :
    e = .unterminated what start ∧ closing ∉ source.rest := by
  refine ⟨eq_unterminated_of_takeUntil h, fun hm => ?_⟩
  unfold takeUntil at h
  dsimp only at h
  split at h
  · rename_i hd
    rw [← List.takeWhile_append_dropWhile (p := (· ≠ closing)) (l := source.rest), hd,
      List.append_nil] at hm
    simpa using Text.mem_takeWhile hm
  · cases h

/-- **A lexeme in brackets**, unless it closes them, leaves one level open, or two if it is a
bracket. -/
theorem Cut.goesOver {text taken behind : Text} {kind : Lexeme.Kind}
    (h : Cut text kind taken behind) (hend : kind ≠ .endOfText) (hclose : kind ≠ .single ']') :
    GoesOver '[' ']' 1 (if kind = .single '[' then 2 else 1) taken := by
  cases h with
  | endOfText => exact absurd rfl hend
  | quoted hq hc =>
    obtain ⟨content, hcontent, rfl, -⟩ := exists_quotable_of_closeQuote hc
    exact goesOver_piece (.quoted hq hcontent) (Int.le_refl 1) (openLevels_quoted _ content 1)
      (Int.le_refl 1)
  | integer hd | decimal hd =>
    exact goesOver_plain (by decide) (Int.le_refl 1) fun c hc =>
      isPlain_of_class (Numeral.isMark_of_mem (Numeral.wellFormed_read _) hc) (by decide)
  | @word c rest hw =>
    have hword : ∀ d ∈ c :: rest.takeWhile Text.continuesWord, Text.continuesWord d = true :=
      List.forall_mem_cons.2 ⟨Text.continuesWord_of_startsWord hw, fun _ => Text.mem_takeWhile⟩
    exact goesOver_plain (by decide) (Int.le_refl 1) fun d hd =>
      isPlain_of_class (hword d hd) (by decide)
  | @single c rest hq hd hw =>
    have hne : c ≠ ']' := fun hc => hclose (by rw [hc])
    refine goesOver_piece (.single (not_or.1 hq)) (Int.le_refl 1) ?_ (by split <;> decide)
    rw [openLevels_single (by decide), if_neg hne]
    simp only [Lexeme.Kind.single.injEq]
    rfl

end Source

/-! ### Places in the text -/

namespace Lookahead

/-- **A lookahead in a text**: the source is at its place, and the lexeme taken last is what the
text is cut to right in front of it. -/
def InText (text : Text) (s : Lookahead) : Prop :=
  ∃ front, text = front ++ s.source.rest ∧ s.source.position = front.length ∧
    ∀ lexeme, s.slot.lexeme? = some lexeme → lexeme.EndsText front ∧
      Cut (lexeme.text ++ s.source.rest) lexeme.kind lexeme.text s.source.rest

/-- A lookahead in a text right behind a lexeme. -/
def Behind (text : Text) (lexeme : Lexeme) (s : Lookahead) : Prop :=
  InText text s ∧ s.slot = .delivered lexeme

variable {text : Text} {s left : Lookahead} {lexeme : Lexeme}

theorem inText_ofText (text : Text) : InText text (ofText text) :=
  ⟨[], rfl, rfl, by rintro lexeme ⟨⟩⟩

theorem Behind.exists_split (h : Behind text lexeme s) : ∃ before,
    text = before ++ (lexeme.text ++ s.source.rest) ∧ lexeme.position = before.length ∧
      Cut (lexeme.text ++ s.source.rest) lexeme.kind lexeme.text s.source.rest := by
  obtain ⟨⟨front, ht, -, hl⟩, hslot⟩ := h
  obtain ⟨⟨before, rfl, hp⟩, hc⟩ := hl lexeme (by rw [hslot]; rfl)
  exact ⟨before, by rw [ht, List.append_assoc], hp, hc⟩

/-- Behind a passage the source is at a later place. -/
theorem InText.of_passage {body : Text} {delimiter : Char} {source : Source} (h : InText text s)
    (hr : s.source.rest = body ++ delimiter :: source.rest)
    (hp : source.position = s.source.position + (body.length + 1)) :
    InText text ⟨source, .empty⟩ := by
  obtain ⟨front, ht, hf, -⟩ := h
  refine ⟨front ++ (body ++ [delimiter]), ?_, ?_, by rintro lexeme ⟨⟩⟩
  · rw [ht, hr]
    simp
  · rw [hp, hf]
    simp

/-- What stands in the text behind a place inside of what is left. -/
theorem InText.pointsAt_quote (h : InText text s) {inside tail : Text} {quote : Char}
    (hr : s.source.rest = inside ++ quote :: tail) (hq : quote = '"' ∨ quote = '\'')
    (hc : closeQuote quote tail = none) :
    Lexeme.Error.PointsAt text
      (.unterminated .stringLiteral (s.source.position + inside.length)) := by
  rintro what position ⟨⟩
  obtain ⟨front, ht, hf, -⟩ := h
  refine ⟨front ++ inside, quote, tail, ?_, ?_, leftOpen_of_closeQuote hq hc⟩
  · rw [ht, hr, List.append_assoc]
  · rw [hf, List.length_append]

/-! ### Readings that blame the culprit -/

/-- **A reading blames the culprit**: from such lookaheads it stays in the text, and its errors
point at what is left open. -/
def Blames {α : Type} (text : Text) (Front : Lookahead → Prop) (read : Reading α) : Prop :=
  ∀ ⦃s⦄, Front s → (∀ ⦃a left⦄, read s = .ok a left → InText text left) ∧
    ∀ ⦃e left⦄, read s = .error e left → e.PointsAt text

namespace Blames

variable {α β : Type} {Front Front' : Lookahead → Prop}

theorem pure (a : α) : Blames text (InText text) (Pure.pure a) := by
  refine fun s hs => ⟨?_, ?_⟩
  · rintro b left ⟨⟩
    exact hs
  · rintro e left ⟨⟩

theorem throw {e : Lexeme.Error} (h : ∀ s, Front s → e.PointsAt text) :
    Blames text Front (MonadExcept.throw e : Reading α) := by
  refine fun s hs => ⟨?_, ?_⟩
  · rintro a left ⟨⟩
  · rintro e' left ⟨⟩
    exact h s hs

theorem illegal (shown : Text) (position : Nat) :
    Blames text Front (MonadExcept.throw (.illegal shown position) : Reading α) :=
  .throw (by rintro s - what place ⟨⟩)

theorem malformed (fault : SubQueryFault) (position : Nat) :
    Blames text Front (MonadExcept.throw (.malformedSubQuery fault position) : Reading α) :=
  .throw (by rintro s - what place ⟨⟩)

theorem bind {read : Reading α} {next : α → Reading β} (hr : Blames text Front read)
    (hn : ∀ a, Blames text (InText text) (next a)) : Blames text Front (read >>= next) := by
  refine fun s hs => ⟨fun b left h => ?_, fun e left h => ?_⟩
  · obtain ⟨a, t, ha, hb⟩ := bind_eq_ok.1 h
    exact (hn a ((hr hs).1 ha)).1 hb
  · rcases bind_eq_error.1 h with h | ⟨a, t, ha, hb⟩
    · exact (hr hs).2 h
    · exact (hn a ((hr hs).1 ha)).2 hb

theorem ite {p : Prop} [Decidable p] {a b : Reading α} (ha : p → Blames text Front a)
    (hb : ¬ p → Blames text Front b) : Blames text Front (if p then a else b) := by
  split
  · exact ha ‹_›
  · exact hb ‹_›

theorem of_front {read : Reading α} (h : Blames text Front read) (hf : ∀ s, Front' s → Front s) :
    Blames text Front' read :=
  fun s hs => h (hf s hs)

/-- Behind a lexeme nothing more need be known. -/
theorem behind {read : Reading α} (h : Blames text (InText text) read) :
    Blames text (Behind text lexeme) read :=
  h.of_front fun _ hs => hs.1

end Blames

/-- A lexeme that is taken lies behind blanks in the text, unless it waited. -/
theorem InText.take (hs : InText text s) (h : take s = .ok lexeme left) :
    Behind text lexeme left := by
  unfold Lookahead.take at h
  split at h
  · rename_i hw
    cases h
    rw [InText, hw] at hs
    exact ⟨hs, rfl⟩
  · obtain ⟨source, hn, rfl⟩ := eq_of_onSource_eq_ok h
    obtain ⟨front, ht, hf, -⟩ := hs
    obtain ⟨blanks, -, hr, hp, hl⟩ := next_spelling hn
    have hcut := (cut_of_next hn).1
    refine ⟨⟨front ++ blanks ++ lexeme.text, ?_, ?_, ?_⟩, rfl⟩
    · rw [ht, hr]
      simp only [List.append_assoc]
    · rw [hl, hp, hf, List.length_append, List.length_append]
    · rintro found ⟨rfl⟩
      refine ⟨⟨front ++ blanks, rfl, by rw [hp, hf, List.length_append]⟩, ?_⟩
      rwa [hcut.spelling] at hcut

theorem InText.pointsAt_of_take (hs : InText text s) {e : Lexeme.Error}
    (h : Lookahead.take s = .error e left) : e.PointsAt text := by
  unfold Lookahead.take at h
  split at h
  · cases h
  · obtain ⟨source, hn, -⟩ := eq_of_onSource_eq_error h
    obtain ⟨blanks, quote, tail, -, hr, hq, hc, rfl⟩ := next_error_spelling hn
    exact hs.pointsAt_quote hr hq hc

theorem blames_take_bind {β : Type} {body : Lexeme → Reading β}
    (h : ∀ lexeme, Blames text (Behind text lexeme) (body lexeme)) :
    Blames text (InText text) (take >>= body) := by
  refine fun s hs => ⟨fun b left hr => ?_, fun e left hr => ?_⟩
  · obtain ⟨lexeme, t, ht, hb⟩ := bind_eq_ok.1 hr
    exact (h lexeme (hs.take ht)).1 hb
  · rcases bind_eq_error.1 hr with hr | ⟨lexeme, t, ht, hb⟩
    · exact hs.pointsAt_of_take hr
    · exact (h lexeme (hs.take ht)).2 hb

theorem blames_take : Blames text (InText text) take :=
  fun _ hs => ⟨fun _ _ h => (hs.take h).1, fun _ _ h => hs.pointsAt_of_take h⟩

theorem blames_putBack : Blames text (InText text) putBack := by
  refine fun s hs => ⟨fun _ left h => ?_, fun e left h => ?_⟩
  · obtain ⟨lexeme, hslot, rfl⟩ := putBack_eq_ok h
    rw [InText, hslot] at hs
    exact hs
  · unfold putBack at h
    split at h <;> cases h <;> rintro what place ⟨⟩

/-- Where a lexeme was delivered, a passage is read from the source. -/
theorem passage_of_delivered {read : EStateM Lexeme.Error Source Text}
    (h : s.slot = .delivered lexeme) : passage read s = onSource read (fun _ => .empty) s := by
  unfold passage
  rw [h]

/-- **A pattern** is left open by its slash. -/
theorem blames_takeUntil {slash : Lexeme} (hk : slash.kind = .single '/') :
    Blames text (Behind text slash) (takeUntil '/' .pattern slash.position) := by
  refine fun s hs => ⟨fun body left h => ?_, fun e left h => ?_⟩
  · rw [takeUntil, passage_of_delivered hs.2] at h
    obtain ⟨source, hr, rfl⟩ := eq_of_onSource_eq_ok h
    obtain ⟨hrest, -, hp⟩ := takeUntil_spelling hr
    exact hs.1.of_passage hrest hp
  · rw [takeUntil, passage_of_delivered hs.2] at h
    obtain ⟨source, hr, -⟩ := eq_of_onSource_eq_error h
    obtain ⟨rfl, hm⟩ := not_mem_of_takeUntil hr
    obtain ⟨before, ht, hp, hc⟩ := hs.exists_split
    rw [hk] at hc
    rw [hc.eq_singleton] at ht
    rintro what place ⟨⟩
    exact ⟨before, '/', s.source.rest, ht, hp, rfl, hm⟩

/-- A passage in brackets or parentheses blames its opening delimiter, where that is known to be
left open. -/
theorem blames_takeBalanced {Front : Lookahead → Prop} {opening closing : Char} {depth : Nat}
    {what : Passage} {start : Nat} (hd : AreDelimiters opening closing) (hone : 1 ≤ depth)
    (hf : ∀ s, Front s → Behind text lexeme s)
    (hopen : ∀ s behind, Front s → GoesOver opening closing depth behind s.source.rest →
      Lexeme.Error.PointsAt text (.unterminated what start)) :
    Blames text Front (takeBalanced opening closing depth what start) := by
  refine fun s hs => ⟨fun body left h => ?_, fun e left h => ?_⟩
  · rw [takeBalanced, passage_of_delivered (hf s hs).2] at h
    obtain ⟨source, hr, rfl⟩ := eq_of_onSource_eq_ok h
    obtain ⟨hrest, hp⟩ := takeBalanced_spelling hr
    exact (hf s hs).1.of_passage hrest hp
  · rw [takeBalanced, passage_of_delivered (hf s hs).2] at h
    obtain ⟨source, hr, -⟩ := eq_of_onSource_eq_error h
    rcases eq_unterminated_of_takeBalanced hd hone hr with
      ⟨rfl, behind, hover⟩ | ⟨inside, quote, tail, hrest, hq, hc, rfl⟩
    · exact hopen s behind hs hover
    · exact (hf s hs).1.pointsAt_quote hrest hq hc

/-- A lexeme that is put back and taken again changes nothing. -/
theorem putBack_bind_take {β : Type} (h : s.slot = .delivered lexeme) (body : Lexeme → Reading β) :
    (do putBack; take >>= body : Reading β) s = body lexeme s := by
  obtain ⟨source, slot⟩ := s
  dsimp only at h
  subst h
  rfl

end Lookahead

/-! ### Tokens -/

namespace Token

variable {text : Text}

theorem blames_comparison (alone withEqual : Operator) :
    Blames text (InText text) (comparison alone withEqual) :=
  blames_take.bind fun _ => .ite (fun _ => .pure _) fun _ => blames_putBack.bind fun _ => .pure _

theorem blames_equalOrTilde (withEqual withTilde : Operator) :
    Blames text (InText text) (equalOrTilde withEqual withTilde) :=
  blames_take.bind fun _ => .ite (fun _ => .pure _) fun _ => .ite (fun _ => .pure _) fun _ =>
    .illegal _ _

theorem blames_negativeNumber : Blames text (InText text) negativeNumber :=
  blames_take.bind fun _ => .ite (fun _ => .illegal _ _) fun _ => .pure _

theorem blames_queryMode (position : Nat) : Blames text (InText text) (queryMode position) :=
  blames_take.bind fun _ => .ite
    (fun _ => blames_take.bind fun _ => .ite (fun _ => .pure _) fun _ =>
      blames_take.bind fun _ => .ite (fun _ => .pure _) fun _ => .malformed _ _)
    fun _ => blames_putBack.bind fun _ => .pure _

/-- **A query** is left open by its parenthesis. -/
theorem blames_query (position : Nat) : Blames text (InText text) (query position) := by
  refine (blames_queryMode position).bind fun _ => blames_take_bind fun opening =>
    .ite (fun hp => ?_) fun _ => .malformed _ _
  refine Blames.bind (blames_takeBalanced (by decide) (Nat.le_refl 1) (fun _ hs => hs) ?_) fun _ =>
    .pure _
  rintro s behind hs hover what place ⟨⟩
  obtain ⟨before, ht, hpos, hc⟩ := hs.exists_split
  rw [Lexeme.isSingle_iff.1 hp] at hc
  rw [hc.eq_singleton] at ht
  exact ⟨before, '(', s.source.rest, ht, hpos, rfl, hover.neverCloses⟩

theorem blames_behindDollar (dollar : Lexeme) : Blames text (InText text) (behindDollar dollar) :=
  blames_take.bind fun _ => .ite (fun _ => .pure _) fun _ =>
    .ite (fun _ => blames_query _) fun _ => .illegal _ _

theorem blames_behindNot (word : Lexeme) : Blames text (InText text) (behindNot word) := by
  refine blames_take.bind fun _ => ?_
  split
  case h_4 => exact blames_putBack.bind fun _ => .illegal _ _
  all_goals exact .pure _

theorem blames_ofWord (word : Lexeme) : Blames text (InText text) (ofWord word) := by
  unfold ofWord
  split
  case h_8 => exact blames_behindNot word
  all_goals exact .pure _

theorem blames_pathFrom (opening : Lexeme) (segments : List Text) :
    Blames text (InText text) (pathFrom opening segments) := by
  intro s hs
  fun_induction pathFrom opening segments s with
  | case1 segments s e s₁ h₁ =>
    exact ⟨by rintro token left ⟨⟩, by rintro e left ⟨⟩; exact (blames_take hs).2 h₁⟩
  | case2 segments s next s₁ h₁ hn e s₂ h₂ =>
    exact ⟨by rintro token left ⟨⟩, by rintro e left ⟨⟩; exact (blames_take (hs.take h₁).1).2 h₂⟩
  | case3 segments s next s₁ h₁ hn segment s₂ h₂ hseg e s₃ h₃ =>
    have hs₂ := ((hs.take h₁).1.take h₂).1
    exact ⟨by rintro token left ⟨⟩, by rintro e left ⟨⟩; exact (blames_take hs₂).2 h₃⟩
  | case4 segments s next s₁ h₁ hn segment s₂ h₂ hseg closing s₃ h₃ hc ih =>
    exact ih (((hs.take h₁).1.take h₂).1.take h₃).1
  | case5 segments s next s₁ h₁ hn segment s₂ h₂ hseg closing s₃ h₃ hc =>
    exact Blames.illegal closing.text closing.position (((hs.take h₁).1.take h₂).1.take h₃).1
  | case6 segments s next s₁ h₁ hn segment s₂ h₂ hseg =>
    exact Blames.illegal segment.text segment.position ((hs.take h₁).1.take h₂).1
  | case7 segments s next s₁ h₁ hn =>
    refine (blames_putBack.bind fun _ => ?_) (hs.take h₁).1
    exact .ite (fun _ => .illegal _ _) fun _ => .pure _

/-! ### Arrays -/

/-- **Inside an array**: behind its opening bracket and what was looked at, the last of which is
held, one level is open in front of that. -/
def InArray (text : Text) (opening held : Lexeme) (s : Lookahead) : Prop :=
  Behind text held s ∧ ∃ before inside, text =
    before ++ '[' :: (inside ++ (held.text ++ s.source.rest)) ∧
    opening.position = before.length ∧ GoesOver '[' ']' 1 1 inside

theorem pointsAt_array {opening : Lexeme} {before rest : Text} (ht : text = before ++ '[' :: rest)
    (hp : opening.position = before.length) (h : NeverCloses '[' ']' rest) :
    Lexeme.Error.PointsAt text (.unterminated .arrayLiteral opening.position) := by
  rintro what place ⟨⟩
  exact ⟨before, '[', rest, ht, hp, rfl, h⟩

/-- The next lexeme in an array, where the ones before it leave one level open. -/
theorem blames_take_inArray {β : Type} {Front : Lookahead → Prop} {opening held : Lexeme}
    {body : Lexeme → Reading β} (hf : ∀ s, Front s → Behind text held s ∧ ∃ before inside,
      text = before ++ '[' :: (inside ++ s.source.rest) ∧ opening.position = before.length ∧
        GoesOver '[' ']' 1 1 inside)
    (h : ∀ lexeme, Blames text (InArray text opening lexeme) (body lexeme)) :
    Blames text Front (take >>= body) := by
  intro s hs
  obtain ⟨hbehind, before, inside, ht, hp, hover⟩ := hf s hs
  have key : ∀ {lexeme t}, take s = .ok lexeme t → InArray text opening lexeme t := by
    intro lexeme t htake
    obtain ⟨blanks, hblanks, hr, -⟩ := next_spelling (next_of_take hbehind.2 htake)
    refine ⟨hbehind.1.take htake, before, inside ++ blanks, ?_, hp, hover.append ?_⟩
    · rw [ht, hr, List.append_assoc]
    · exact goesOver_plain (by decide) (Int.le_refl 1) fun c hc =>
        isPlain_of_class (hblanks c hc) (by decide)
  refine ⟨fun b left hr => ?_, fun e left hr => ?_⟩
  · obtain ⟨lexeme, t, htake, hb⟩ := bind_eq_ok.1 hr
    exact (h lexeme (key htake)).1 hb
  · rcases bind_eq_error.1 hr with hr | ⟨lexeme, t, htake, hb⟩
    · exact hbehind.1.pointsAt_of_take hr
    · exact (h lexeme (key htake)).2 hb

/-- **An array** is left open by its bracket, whatever was looked at in it before. -/
theorem blames_arrayRest (taken : Text) (opening first : Lexeme) :
    Blames text (InArray text opening first) (do putBack; arrayRest taken opening) := by
  have hdepth : ((if first.isSingle '[' then 2 else 1 : Nat) : Int) =
      if first.kind = .single '[' then 2 else 1 := by
    simp only [Lexeme.isSingle, beq_iff_eq]
    split <;> rfl
  -- what is read once the lexeme that waits is taken again
  have key : Blames text (InArray text opening first) (if first.isEnd then
      throw (.unterminated .arrayLiteral opening.position)
    else if first.isSingle ']' then return Token.array taken
    else do
      let body ← takeBalanced '[' ']' (if first.isSingle '[' then 2 else 1) .arrayLiteral
        opening.position
      return Token.array (taken ++ first.text ++ body)) := by
    refine .ite (fun he => .throw ?_) fun he => .ite (fun _ => ?_) fun hc => ?_
    · rintro s ⟨hbehind, before, inside, ht, hp, hover⟩
      have hk : first.kind = .endOfText := by simpa [Lexeme.isEnd] using he
      obtain ⟨-, -, -, hcut⟩ := hbehind.exists_split
      rw [hk] at hcut
      obtain ⟨hempty, hrest⟩ := hcut.eq_nil
      rw [hempty, hrest, List.append_nil, List.append_nil] at ht
      exact pointsAt_array ht hp hover.neverCloses
    · exact (Blames.pure _).of_front fun s hs => hs.1.1
    · refine Blames.bind (blames_takeBalanced (by decide) (by split <;> decide)
        (fun s hs => hs.1) ?_) fun _ => .pure _
      rintro s behind ⟨hbehind, before, inside, ht, hp, hover⟩ hrest
      obtain ⟨-, -, -, hcut⟩ := hbehind.exists_split
      have hfirst := hcut.goesOver (by simpa [Lexeme.isEnd] using he)
        fun hk => hc (Lexeme.isSingle_iff.2 hk)
      rw [hdepth] at hrest
      exact pointsAt_array ht hp (hover.append (hfirst.append hrest)).neverCloses
  intro s hs
  exact (putBack_bind_take hs.1.2 _).symm ▸ key hs

/-- **What a bracket starts** blames that bracket, if it is an array without an end. -/
theorem blames_behindBracket {opening : Lexeme} (hk : opening.kind = .single '[') :
    Blames text (Behind text opening) (behindBracket opening) := by
  have hopen : ∀ s, Behind text opening s → Behind text opening s ∧ ∃ before inside,
      text = before ++ '[' :: (inside ++ s.source.rest) ∧ opening.position = before.length ∧
        GoesOver '[' ']' 1 1 inside := by
    intro s hs
    obtain ⟨before, ht, hp, hcut⟩ := hs.exists_split
    rw [hk] at hcut
    rw [hcut.eq_singleton] at ht
    exact ⟨hs, before, [], ht, hp, goesOver_nil (Int.le_refl 1)⟩
  refine blames_take_inArray hopen fun first => .ite (fun _ => ?_) fun _ =>
    .ite (fun hseg => ?_) fun _ => ?_
  · refine Blames.of_front ?_ fun s hs => hs.1.1
    exact blames_take.bind fun _ => .ite (fun _ => blames_pathFrom _ _) fun _ => .illegal _ _
  · -- the segment of a path leaves the levels of the array alone
    have hsegment : ∀ s, InArray text opening first s → Behind text first s ∧ ∃ before inside,
        text = before ++ '[' :: (inside ++ s.source.rest) ∧ opening.position = before.length ∧
          GoesOver '[' ']' 1 1 inside := by
      rintro s ⟨hbehind, before, inside, ht, hp, hover⟩
      obtain ⟨-, -, -, hcut⟩ := hbehind.exists_split
      have hkind : first.kind = .word ∨ first.kind = .integer := by simpa [isSegment] using hseg
      have hfirst : GoesOver '[' ']' 1 1 first.text := by
        rcases hkind with hkind | hkind <;> rw [hkind] at hcut <;>
          exact hcut.goesOver (by decide) (by decide)
      exact ⟨hbehind, before, inside ++ first.text, by rw [ht, List.append_assoc], hp,
        hover.append hfirst⟩
    refine blames_take_inArray hsegment fun closing => .ite (fun _ => ?_) fun _ => ?_
    · exact (blames_pathFrom _ _).of_front fun s hs => hs.1.1
    · exact blames_arrayRest _ _ _
  · exact blames_arrayRest _ _ _

/-! ### Whole texts -/

/-- **Behind its first lexeme** the reading of a token blames the culprit. -/
theorem blames_startingWith (first : Lexeme) :
    Blames text (Behind text first) (startingWith first) := by
  unfold startingWith
  split
  case h_5 => exact (blames_ofWord first).behind
  case h_6 c hk =>
    split
    · exact (Blames.pure _).behind
    · exact (Blames.pure _).behind
    · exact blames_negativeNumber.behind
    · exact (blames_behindDollar first).behind
    · exact (blames_equalOrTilde _ _).behind
    · exact (blames_equalOrTilde _ _).behind
    · exact (blames_comparison _ _).behind
    · exact (blames_comparison _ _).behind
    · exact (blames_takeUntil hk).bind fun _ => .pure _
    · exact blames_behindBracket hk
    · exact (Blames.pure _).behind
  all_goals exact (Blames.pure _).behind

/-- **The reading of a token** blames the culprit. -/
theorem blames_next : Blames text (InText text) next :=
  blames_take_bind fun first => (blames_startingWith first).bind fun _ => .pure _

theorem pointsAt_of_listFrom {s : Lookahead} {e : Lexeme.Error} (hs : InText text s)
    (h : listFrom s = .error e) : e.PointsAt text := by
  fun_induction listFrom s with
  | case1 s e' left hn =>
    cases h
    exact (blames_next hs).2 hn
  | case2 => cases h
  | case3 s token position left hn hne ih =>
    have hleft := (blames_next hs).1 hn
    cases hl : listFrom left with
    | error e' =>
      rw [hl] at h
      cases h
      exact ih hleft hl
    | ok tokens =>
      rw [hl] at h
      cases h

/-- **Errors point at the culprit.** Where a text is no list of tokens because a passage has no end,
the character at the place of the error opens that passage, and nothing in the rest of the text
closes it: no matching quote follows that a backslash does not take along, no slash follows, or the
levels of brackets or parentheses outside of quoted strings never come to an end. -/
theorem unterminated_points_at_culprit {text : Text} {what : Passage} {position : Nat}
    (h : listOf text = .error (.unterminated what position)) : ∃ before opening rest,
      text = before ++ opening :: rest ∧ position = before.length ∧ what.LeftOpen opening rest :=
  pointsAt_of_listFrom (inText_ofText text) h what position rfl

/-- An array without an end, with closed brackets and a quoted one in it, and a quote without an end
behind an escaped one in the parentheses of a query. -/
theorem unterminated_points_at_culprit_in_array :
    let array : Text := "x IN [1, [2], \"]\"".toList
    let query : Text := "$jq(.a \"\\\" )".toList
    listOf array = .error (.unterminated .arrayLiteral 5) ∧
    (∃ before opening rest, array = before ++ opening :: rest ∧ 5 = before.length ∧
      Passage.LeftOpen opening rest .arrayLiteral) ∧
    listOf query = .error (.unterminated .stringLiteral 7) ∧
    ∃ before opening rest, query = before ++ opening :: rest ∧ 7 = before.length ∧
      Passage.LeftOpen opening rest .stringLiteral := by
  intro array query
  have harray : listOf array = .error (.unterminated .arrayLiteral 5) := by decide +kernel
  have hquery : listOf query = .error (.unterminated .stringLiteral 7) := by decide +kernel
  exact ⟨harray, unterminated_points_at_culprit harray, hquery,
    unterminated_points_at_culprit hquery⟩

end Token
end Condition
