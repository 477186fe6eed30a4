import Condition.Proofs.Passages

/-! # What a passage encloses

A passage is scanned piece by piece: a quoted string is one piece, and so is any other character
(`IsPiece`). A delimiter that is a piece opens or closes a level, and the scan goes on as long as it
stays inside (`StaysInside`). A text is enclosed if the scan of it stays inside and leaves one level
open, which the delimiter behind it closes (`Encloses`).

* `balanced_pieces`: over pieces inside, the counter of a passage is the number of open levels.
* `scan`: a text goes on with pieces inside up to the delimiter, to its end, or to a quote that
  stays open.
* `takeBalanced_iff_encloses`: a passage ends at the delimiter that encloses it, and nowhere
  else. -/

namespace Condition.Source

open Text

/-! ### Pieces and levels -/

/-- **A piece of a scan**: a quoted string, or a character that is no quote. -/
inductive IsPiece : Text → Prop where
  | quoted {quote : Char} {content : Text} (hq : quote = '"' ∨ quote = '\'')
    (hc : Quotable quote content) : IsPiece (quote :: (content ++ [quote]))
  | single {c : Char} (hc : c ≠ '"' ∧ c ≠ '\'') : IsPiece [c]

/-- The number of levels that are open behind pieces. -/
def openLevels (opening closing : Char) (depth : Int) (pieces : List Text) : Int :=
  depth + pieces.count [opening] - pieces.count [closing]

/-- **A scan that stays inside**: in front of each of its pieces and behind the last, a level is
open. -/
structure StaysInside (opening closing : Char) (depth : Int) (pieces : List Text) : Prop where
  isPiece : ∀ piece ∈ pieces, IsPiece piece
  inside : ∀ front, front <+: pieces → 1 ≤ openLevels opening closing depth front

/-- **A text that is enclosed** at some depth by the delimiter behind it: a scan of it stays inside,
and the one level that it leaves open is the delimiter's. -/
def Encloses (opening closing : Char) (depth : Int) (body : Text) : Prop :=
  ∃ pieces, StaysInside opening closing depth pieces ∧ pieces.flatten = body ∧
    openLevels opening closing depth pieces = 1

variable {opening closing : Char}

theorem openLevels_nil (depth : Int) : openLevels opening closing depth [] = depth := by
  simp [openLevels]

theorem openLevels_cons (depth : Int) (piece : Text) (pieces : List Text) :
    openLevels opening closing depth (piece :: pieces) =
      openLevels opening closing (openLevels opening closing depth [piece]) pieces := by
  simp only [openLevels, List.count_cons, List.count_nil]
  omega

theorem staysInside_nil {depth : Int} (h : 1 ≤ depth) : StaysInside opening closing depth [] := by
  refine ⟨by rintro piece ⟨⟩, fun front hf => ?_⟩
  rw [List.prefix_nil.1 hf, openLevels_nil]
  exact h

theorem StaysInside.one_le {depth : Int} {pieces : List Text}
    (h : StaysInside opening closing depth pieces) : 1 ≤ depth := by
  have := h.inside [] List.nil_prefix
  rwa [openLevels_nil] at this

theorem staysInside_cons_iff {depth : Int} {piece : Text} {pieces : List Text} :
    StaysInside opening closing depth (piece :: pieces) ↔ IsPiece piece ∧ 1 ≤ depth ∧
      StaysInside opening closing (openLevels opening closing depth [piece]) pieces := by
  constructor
  · intro h
    obtain ⟨hp, hps⟩ := List.forall_mem_cons.1 h.isPiece
    refine ⟨hp, h.one_le, hps, fun front hf => ?_⟩
    rw [← openLevels_cons]
    exact h.inside (piece :: front) ((List.prefix_cons_inj piece).2 hf)
  · rintro ⟨hp, hd, h⟩
    refine ⟨List.forall_mem_cons.2 ⟨hp, h.isPiece⟩, fun front hf => ?_⟩
    rcases List.prefix_cons_iff.1 hf with rfl | ⟨behind, rfl, hb⟩
    · rwa [openLevels_nil]
    · rw [openLevels_cons]
      exact h.inside behind hb

/-- A quoted string is no delimiter. -/
theorem openLevels_quoted (quote : Char) (content : Text) (depth : Int) :
    openLevels opening closing depth [quote :: (content ++ [quote])] = depth := by
  simp [openLevels]

/-- A level is closed by a closing delimiter, opened by an opening one, and left alone by the
rest. -/
theorem openLevels_single (hne : opening ≠ closing) (c : Char) (depth : Int) :
    openLevels opening closing depth [[c]] =
      if c = closing then depth - 1 else if c = opening then depth + 1 else depth := by
  simp only [openLevels, List.count_singleton, beq_iff_eq, List.cons.injEq, and_true]
  by_cases hc : c = closing
  · rw [if_neg (fun h => hne (h.symm.trans hc)), if_pos hc, if_pos hc]
    omega
  · rw [if_neg hc, if_neg hc]
    split <;> omega

/-! ### The counter of a passage -/

/-- **One step of the counter**: a character that does not close the passage leaves as many levels
open as there are, and at least one. -/
theorem levelsBehind_eq (hne : opening ≠ closing) {depth : Nat} (hd : 1 ≤ depth) {c : Char}
    (hc : ¬(c = closing ∧ depth ≤ 1)) :
    (levelsBehind opening closing depth c : Int) = openLevels opening closing depth [[c]] ∧
      1 ≤ levelsBehind opening closing depth c := by
  rw [openLevels_single hne, levelsBehind]
  by_cases hclose : c = closing
  · have hdeep : ¬ depth ≤ 1 := fun hle => hc ⟨hclose, hle⟩
    rw [if_pos hclose, if_pos hclose]
    omega
  · rw [if_neg hclose, if_neg hclose]
    split <;> omega

variable {depth : Nat} {pieces : List Text}

/-- A piece behind which a level is open is taken, and the counter is then the number of open
levels. -/
theorem balanced_piece (hne : opening ≠ closing) (hd : 1 ≤ depth) {piece : Text}
    (hp : IsPiece piece) (hopen : 1 ≤ openLevels opening closing depth [piece]) :
    ∃ counter : Nat, (counter : Int) = openLevels opening closing depth [piece] ∧ ∀ offset rest,
      balanced opening closing depth offset (piece ++ rest) =
        (balanced opening closing counter (offset + piece.length) rest).map
          fun found => (piece ++ found.1, found.2) := by
  cases hp with
  | @quoted quote content hq hc =>
    have hclose : closeQuote quote (content ++ [quote]) = some (content ++ [quote], []) :=
      closeQuote_of_quotable (ne_backslash_of_isQuote hq) hc []
    exact ⟨depth, (openLevels_quoted quote content depth).symm, balanced_quoted hq hclose⟩
  | @single c hq =>
    have hc : ¬(c = closing ∧ depth ≤ 1) := by
      rintro ⟨rfl, hle⟩
      rw [openLevels_single hne, if_pos rfl] at hopen
      omega
    exact ⟨_, (levelsBehind_eq hne hd hc).1, balanced_cons hq hc⟩

/-- **Over pieces inside** the counter is the number of open levels, however many pieces there
are. -/
theorem balanced_pieces (hne : opening ≠ closing) (h : StaysInside opening closing depth pieces) :
    ∃ counter : Nat, (counter : Int) = openLevels opening closing depth pieces ∧ ∀ offset rest,
      balanced opening closing depth offset (pieces.flatten ++ rest) =
        (balanced opening closing counter (offset + pieces.flatten.length) rest).map
          fun found => (pieces.flatten ++ found.1, found.2) := by
  induction pieces generalizing depth with
  | nil =>
    refine ⟨depth, (openLevels_nil _).symm, fun offset rest => ?_⟩
    rw [List.flatten_nil, List.nil_append, List.length_nil, Nat.add_zero]
    cases balanced opening closing depth offset rest <;> rfl
  | cons piece pieces ih =>
    obtain ⟨hp, hd, hrest⟩ := staysInside_cons_iff.1 h
    obtain ⟨between, hb, hpiece⟩ := balanced_piece hne (by omega) hp hrest.one_le
    rw [← hb] at hrest
    obtain ⟨counter, hc, hpieces⟩ := ih hrest
    refine ⟨counter, by rw [openLevels_cons, ← hb, hc], fun offset rest => ?_⟩
    rw [List.flatten_cons, List.append_assoc, hpiece, hpieces, map_balanced_map, List.length_append,
      Nat.add_assoc]

/-! ### Where a scan ends -/

/-- **All that can come of a scan**: the delimiter that encloses what is in front of it, the end of
the text, or a quote that nothing closes. -/
inductive Scan (opening closing : Char) (depth : Int) : Text → Prop where
  | closed {body : Text} (h : Encloses opening closing depth body) (rest : Text) :
    Scan opening closing depth (body ++ closing :: rest)
  | unclosed {pieces : List Text} (h : StaysInside opening closing depth pieces) :
    Scan opening closing depth pieces.flatten
  | unclosedQuote {pieces : List Text} (h : StaysInside opening closing depth pieces) {quote : Char}
    (hq : quote = '"' ∨ quote = '\'') {tail : Text} (hc : closeQuote quote tail = none) :
    Scan opening closing depth (pieces.flatten ++ quote :: tail)

theorem Scan.cons {depth : Int} {piece text : Text} (hp : IsPiece piece) (hd : 1 ≤ depth)
    (h : Scan opening closing (openLevels opening closing depth [piece]) text) :
    Scan opening closing depth (piece ++ text) := by
  cases h with
  | @closed body h rest =>
    obtain ⟨pieces, hi, rfl, he⟩ := h
    rw [← List.append_assoc]
    refine .closed
      ⟨piece :: pieces, staysInside_cons_iff.2 ⟨hp, hd, hi⟩, List.flatten_cons, ?_⟩ rest
    rw [openLevels_cons, he]
  | unclosed h =>
    rw [← List.flatten_cons]
    exact .unclosed (staysInside_cons_iff.2 ⟨hp, hd, h⟩)
  | unclosedQuote h hq hc =>
    rw [← List.append_assoc, ← List.flatten_cons]
    exact .unclosedQuote (staysInside_cons_iff.2 ⟨hp, hd, h⟩) hq hc

/-- **Every text** is scanned in one of the three ways. -/
theorem scan (hne : opening ≠ closing) (hd : 1 ≤ depth) (text : Text) :
    Scan opening closing depth text := by
  have hone : (1 : Int) ≤ depth := by omega
  -- the passage is run for its cases only: each of them is one of the scan's, whatever its answer
  have key : ∀ offset, Scan opening closing depth text := fun offset => by
    fun_induction balanced opening closing depth offset text with
    | case1 => exact .unclosed (staysInside_nil hone)
    | case2 depth offset c rest hq hc => exact .unclosedQuote (staysInside_nil hone) hq hc
    | case3 depth offset c rest hq body behind hc ih =>
      obtain ⟨content, hquotable, rfl, rfl⟩ := exists_quotable_of_closeQuote hc
      have hpiece : IsPiece (c :: (content ++ [c])) := .quoted hq hquotable
      have hscan := Scan.cons hpiece hone (by rw [openLevels_quoted]; exact ih hd hone)
      rwa [List.cons_append, List.append_assoc] at hscan
    | case4 depth offset c rest hq hc =>
      obtain ⟨rfl, hle⟩ := hc
      refine .closed ⟨[], staysInside_nil hone, rfl, ?_⟩ rest
      rw [openLevels_nil]
      omega
    | case5 depth offset c rest hq hc ih =>
      obtain ⟨hl, hpos⟩ := levelsBehind_eq hne hd hc
      exact Scan.cons (.single (not_or.1 hq)) hone (by rw [← hl]; exact ih hpos (by omega))
  exact key 0

/-! ### What comes of each -/

theorem balanced_of_encloses (hd : AreDelimiters opening closing) {body : Text}
    (h : Encloses opening closing depth body) (offset : Nat) (rest : Text) :
    balanced opening closing depth offset (body ++ closing :: rest) = .ok (body, rest) := by
  obtain ⟨pieces, hi, rfl, he⟩ := h
  obtain ⟨counter, hc, hpieces⟩ := balanced_pieces hd.1 hi
  have hcounter : counter = 1 := by omega
  have hend : ∀ place, balanced opening closing counter place (closing :: rest) =
      .ok ([], rest) := by
    intro place
    rw [balanced, if_neg (not_or.2 hd.2.2), if_pos ⟨rfl, Nat.le_of_eq hcounter⟩]
  rw [hpieces, hend]
  simp only [Except.map, List.append_nil]

theorem balanced_of_staysInside (hne : opening ≠ closing)
    (h : StaysInside opening closing depth pieces) (offset : Nat) :
    balanced opening closing depth offset pieces.flatten = .error .delimiter := by
  obtain ⟨counter, -, hpieces⟩ := balanced_pieces hne h
  have hall := hpieces offset []
  rw [List.append_nil, balanced] at hall
  exact hall

theorem balanced_of_unclosedQuote (hne : opening ≠ closing)
    (h : StaysInside opening closing depth pieces) {quote : Char} (hq : quote = '"' ∨ quote = '\'')
    {tail : Text} (hc : closeQuote quote tail = none) (offset : Nat) :
    balanced opening closing depth offset (pieces.flatten ++ quote :: tail) =
      .error (.quote (offset + pieces.flatten.length)) := by
  obtain ⟨counter, -, hpieces⟩ := balanced_pieces hne h
  have hquote : ∀ place, balanced opening closing counter place (quote :: tail) =
      .error (.quote place) := by
    intro place
    rw [balanced, if_pos hq]
    split
    · rfl
    · rename_i hsome
      rw [hc] at hsome
      cases hsome
  rw [hpieces, hquote]
  rfl

/-- **A passage is taken** just if it is enclosed, and it is unterminated if nothing is. -/
theorem balanced_cases (hd : AreDelimiters opening closing) (hone : 1 ≤ depth) (offset : Nat)
    (text : Text) :
    (∃ body rest, text = body ++ closing :: rest ∧ Encloses opening closing depth body ∧
      balanced opening closing depth offset text = .ok (body, rest)) ∨
    ∃ e, balanced opening closing depth offset text = .error e := by
  cases scan hd.1 hone text with
  | @closed body h rest => exact .inl ⟨body, rest, rfl, h, balanced_of_encloses hd h offset rest⟩
  | unclosed h => exact .inr ⟨_, balanced_of_staysInside hd.1 h offset⟩
  | unclosedQuote h hq hc => exact .inr ⟨_, balanced_of_unclosedQuote hd.1 h hq hc offset⟩

theorem balanced_eq_ok_iff (hd : AreDelimiters opening closing) (hone : 1 ≤ depth) (offset : Nat)
    (text body rest : Text) : balanced opening closing depth offset text = .ok (body, rest) ↔
      text = body ++ closing :: rest ∧ Encloses opening closing depth body := by
  constructor
  · intro h
    rcases balanced_cases hd hone offset text with ⟨found, behind, ht, he, hb⟩ | ⟨e, hb⟩
    · rw [h] at hb
      cases hb
      exact ⟨ht, he⟩
    · rw [h] at hb
      cases hb
  · rintro ⟨rfl, he⟩
    exact balanced_of_encloses hd he offset rest

/-! ### Passages of a source -/

theorem takeBalanced_eq_ok_iff (passage : Passage) (start : Nat) (source left : Source)
    (body : Text) : takeBalanced opening closing depth passage start source = .ok body left ↔
      balanced opening closing depth 0 source.rest = .ok (body, left.rest) ∧
        left.position = source.position + (body.length + 1) := by
  obtain ⟨rest, position⟩ := left
  unfold takeBalanced
  cases balanced opening closing depth 0 source.rest with
  | error e => cases e <;> simp
  | ok found =>
    simp only [past, EStateM.Result.ok.injEq, Source.mk.injEq, Except.ok.injEq, List.length_append,
      List.length_singleton]
    constructor
    · rintro ⟨rfl, rfl, rfl⟩
      exact ⟨rfl, rfl⟩
    · rintro ⟨rfl, rfl⟩
      exact ⟨rfl, rfl, rfl⟩

theorem takeBalanced_of_error {e : Unclosed} (passage : Passage) (start : Nat) {source : Source}
    (h : balanced opening closing depth 0 source.rest = .error e) : ∃ what place,
      takeBalanced opening closing depth passage start source =
        .error (.unterminated what place) source.atEnd := by
  unfold takeBalanced
  rw [h]
  cases e with
  | delimiter => exact ⟨_, _, rfl⟩
  | quote offset => exact ⟨_, _, rfl⟩

/-- **A passage ends at the delimiter that encloses it**, wherever it starts and at whatever depth:
what is enclosed is taken as it stands, and the delimiter with it; where nothing is enclosed, the
passage is unterminated. All along, the counter is the number of levels that are open, and so at
least one. -/
theorem takeBalanced_iff_encloses (hd : AreDelimiters opening closing) (hone : 1 ≤ depth)
    (passage : Passage) (start : Nat) (source : Source) :
    (∀ body left, takeBalanced opening closing depth passage start source = .ok body left ↔
      source.rest = body ++ closing :: left.rest ∧
        left.position = source.position + (body.length + 1) ∧
        Encloses opening closing depth body) ∧
    ((∀ body rest, source.rest = body ++ closing :: rest → ¬ Encloses opening closing depth body) →
      ∃ what place, takeBalanced opening closing depth passage start source =
        .error (.unterminated what place) source.atEnd) ∧
    ∀ pieces rest, source.rest = pieces.flatten ++ rest → StaysInside opening closing depth pieces →
      ∃ counter : Nat, (counter : Int) = openLevels opening closing depth pieces ∧ 1 ≤ counter ∧
        ∀ offset, balanced opening closing depth offset source.rest =
          (balanced opening closing counter (offset + pieces.flatten.length) rest).map
            fun found => (pieces.flatten ++ found.1, found.2) := by
  refine ⟨fun body left => ?_, fun h => ?_, fun pieces rest hr h => ?_⟩
  · rw [takeBalanced_eq_ok_iff, balanced_eq_ok_iff hd hone]
    exact ⟨fun ⟨⟨hr, he⟩, hp⟩ => ⟨hr, hp, he⟩, fun ⟨hr, hp, he⟩ => ⟨⟨hr, he⟩, hp⟩⟩
  · rcases balanced_cases hd hone 0 source.rest with ⟨body, rest, hr, he, -⟩ | ⟨e, hb⟩
    · exact absurd he (h body rest hr)
    · exact takeBalanced_of_error passage start hb
  · obtain ⟨counter, hc, hpieces⟩ := balanced_pieces hd.1 h
    have hinside := h.inside pieces (List.prefix_refl pieces)
    exact ⟨counter, hc, by omega, fun offset => by rw [hr]; exact hpieces offset rest⟩

/-- Two levels are open, and strings of both kinds hide parentheses, one of them behind an escaped
quote. Without the second delimiter the text is unterminated. -/
theorem takeBalanced_iff_encloses_quoted :
    let body : Text := ['"', '\\', '"', ')', '"', ')', '\'', '(', '\'']
    AreDelimiters '(' ')' ∧ 1 ≤ 2 ∧ Encloses '(' ')' (2 : Nat) body ∧
    takeBalanced '(' ')' 2 .subQuery 5 ⟨body ++ [')', 'x'], 7⟩ = .ok body ⟨['x'], 17⟩ ∧
    ∃ what place, takeBalanced '(' ')' 2 .subQuery 5 ⟨body ++ ['x'], 7⟩ =
      .error (.unterminated what place) ⟨[], 17⟩ := by
  intro body
  have hd : AreDelimiters '(' ')' := by decide
  have hstring : IsPiece ['"', '\\', '"', ')', '"'] :=
    .quoted (.inl rfl) (.escaped '"' (.bare (by decide) (by decide) .nil))
  have hother : IsPiece ['\'', '(', '\''] := .quoted (.inr rfl) (.bare (by decide) (by decide) .nil)
  have hinside : ∀ more, StaysInside '(' ')' 1 more → StaysInside '(' ')' (2 : Nat)
      (['"', '\\', '"', ')', '"'] :: [')'] :: ['\'', '(', '\''] :: more) := fun more hm =>
    staysInside_cons_iff.2
      ⟨hstring, by decide, staysInside_cons_iff.2 ⟨.single (by decide), by decide,
      staysInside_cons_iff.2 ⟨hother, by decide, hm⟩⟩⟩
  have hencloses : Encloses '(' ')' (2 : Nat) body :=
    ⟨_, hinside [] (staysInside_nil (by decide)), rfl, by decide⟩
  refine ⟨hd, by decide, hencloses, ?_, ?_⟩
  · exact ((takeBalanced_iff_encloses hd (by decide) .subQuery 5 _).1 _ _).2 ⟨rfl, rfl, hencloses⟩
  · refine (takeBalanced_iff_encloses hd (by decide) .subQuery 5 ⟨body ++ ['x'], 7⟩).2.1 ?_
    intro enclosed rest hr he
    have hopen : balanced '(' ')' 2 0 (body ++ ['x']) = .error .delimiter :=
      balanced_of_staysInside hd.1 (hinside [['x']] (staysInside_cons_iff.2
        ⟨.single (by decide), by decide, staysInside_nil (by decide)⟩)) 0
    have hclosed := balanced_of_encloses hd he 0 rest
    rw [← hr, hopen] at hclosed
    cases hclosed

end Condition.Source
