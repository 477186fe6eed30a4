import Condition.Proofs.PathPieces
import Mathlib.Data.List.Forall2

/-! # The grammar of paths

What a frame holds is spelled by the text that was read since its parenthesis (`Spells`): paths
between commas and bars, each of which starts with a point or is a group, with its steps behind it.
The frames around it are spelled by the texts between their parentheses, so a text is read as a path
just where it spells a frame with that path.

* `ofText_eq_ok_iff_spells`: the texts that spell a path.
* `Spells.append`: a text behind a bar goes on with the frame in front of it.
* `Spells.balanced`: the parentheses of such a text are balanced. -/

namespace Condition.Path

/-! ### Blanks in front -/

theorem Reads.of_skipBlanks {phase : Phase} {outer : List Frame} {frame : Frame}
    {cursor cursor' : Cursor} {path : Path} (h : Reads phase outer frame cursor path)
    (he : skipBlanks cursor' = skipBlanks cursor) : Reads phase outer frame cursor' path := by
  cases h with
  | opening hs hr h => exact .opening (he.trans hs) hr h
  | point hs hr hf hp h => exact .point (he.trans hs) hr hf hp h
  | comma hs hr h => exact .comma (he.trans hs) hr h
  | bar hs hr h => exact .bar (he.trans hs) hr h
  | closing hs hr hp h => exact .closing (he.trans hs) hr hp h
  | ends hs hr => exact .ends (he.trans hs) hr

theorem skipBlanks_cons {c : Char} (hc : Text.isBlank c = true) (text : Text) (offset : Nat) :
    skipBlanks ⟨c :: text, offset⟩ = skipBlanks ⟨text, offset + c.utf8Size⟩ := by
  simp only [skipBlanks, Cursor.past, List.takeWhile_cons, List.dropWhile_cons, hc, if_true,
    Text.utf8Length, List.map_cons, List.sum_cons, Nat.add_assoc]

/-- A blank in front of a text makes no difference. -/
theorem readsText_blank {phase : Phase} {outer : List Frame} {frame : Frame} {c : Char}
    {text : Text}
    {path : Path} (hc : Text.isBlank c = true) (h : ReadsText phase outer frame text path) :
    ReadsText phase outer frame (c :: text) path :=
  fun offset => (h _).of_skipBlanks (skipBlanks_cons hc text offset)

theorem stopsPath_blank {c : Char} (hc : Text.isBlank c = true) (rest : Text) :
    StopsPath (c :: rest) := by
  rintro d ⟨⟩
  exact ⟨Text.continuesWord_of_isBlank hc, Json.notMem_of_class hc (by decide)⟩

/-! ### Texts and frames -/

/-- **The steps of a path** are a piece of text that a reading takes, wherever a path may end. -/
def IsPiece (read : Reading Path) (piece : Text) (path : Path) : Prop :=
  Flat piece ∧ ∀ rest, StopsPath rest → Takes read (piece ++ rest) path rest

/-- The steps of a path that starts with a point, behind that point. -/
def readPointed : Reading Path := readFirst >>= fun step => readSteps [step]

/-- **The texts that spell what a frame holds**, up to a place in front of a path or behind one. -/
inductive Spells : Phase → Text → Frame → Prop where
  | start : Spells .path [] .empty
  | blank {phase : Phase} {text : Text} {frame : Frame} {c : Char} (h : Spells phase text frame)
    (hc : Text.isBlank c = true) : Spells phase (text ++ [c]) frame
  | pointed {text piece : Text} {frame : Frame} {path : Path} (h : Spells .path text frame)
    (hp : IsPiece readPointed piece path) :
    Spells .behind (text ++ '.' :: piece) (frame.withBranch path)
  | group {text inner piece : Text} {frame held : Frame} {path : Path} (h : Spells .path text frame)
    (hi : Spells .behind inner held) (hp : IsPiece (readSteps [held.path]) piece path) :
    Spells .behind (text ++ '(' :: (inner ++ ')' :: piece)) (frame.withBranch path)
  | comma {text : Text} {frame : Frame} (h : Spells .behind text frame) :
    Spells .path (text ++ [',']) frame
  | bar {text : Text} {frame : Frame} (h : Spells .behind text frame) :
    Spells .path (text ++ ['|']) frame.withBar

theorem Spells.blanks {phase : Phase} {text blanks : Text} {frame : Frame}
    (h : Spells phase text frame)
    (hb : ∀ c ∈ blanks, Text.isBlank c = true) : Spells phase (text ++ blanks) frame := by
  induction blanks generalizing text with
  | nil => rwa [List.append_nil]
  | cons c blanks ih =>
    have h' := ih (h.blank (hb c List.mem_cons_self)) fun d hd => hb d (List.mem_cons_of_mem c hd)
    rwa [List.append_assoc] at h'

/-! ### What a text spells is read -/

/-- **A text that spells a frame** is read up to its end, where the frame holds what it spells. -/
theorem Spells.readsText {phase : Phase} {text : Text} {frame : Frame} (h : Spells phase text frame)
    {outer : List Frame} {rest : Text} {path : Path} (hs : phase = .behind → StopsPath rest)
    (hr : ReadsText phase outer frame rest path) :
    ReadsText .path outer .empty (text ++ rest) path := by
  induction h generalizing outer rest path with
  | start => exact hr
  | blank _ hc ih =>
    rw [List.append_assoc]
    exact ih (fun _ => stopsPath_blank hc rest) (readsText_blank hc hr)
  | pointed _ hp ih =>
    rw [List.append_assoc]
    exact ih nofun (readsText_steps (hp.2 rest (hs rfl)) hr)
  | @group text inner piece frame held branch _ _ hp ih ihi =>
    have hclose : ReadsText .behind (frame :: outer) held (')' :: (piece ++ rest)) path :=
      readsText_closing (hp.2 rest (hs rfl)) hr
    have hinner := ihi (fun _ => stopsPath_cons (by decide) _) hclose
    rw [List.append_assoc, List.cons_append, List.append_assoc]
    exact ih nofun (readsText_opening hinner)
  | comma _ ih =>
    rw [List.append_assoc]
    exact ih (fun _ => stopsPath_cons (by decide) rest) (readsText_comma hr)
  | bar _ ih =>
    rw [List.append_assoc]
    exact ih (fun _ => stopsPath_cons (by decide) rest) (readsText_bar hr)

theorem Spells.ofText {text : Text} {frame : Frame} (h : Spells .behind text frame) :
    ofText text = .ok frame.path := by
  have hr := h.readsText (fun _ => stopsPath_nil) readsText_ends
  rw [List.append_nil] at hr
  exact ofText_of_readsText hr

/-! ### What is read was spelled -/

/-- The text in front of a place: what spells each of the open frames, between their parentheses. -/
def inFrames : List Text → Text → Text
  | [], text => text
  | enclosing :: outer, text => inFrames outer (enclosing ++ '(' :: text)

theorem inFrames_append (outer : List Text) (text piece rest : Text) :
    inFrames outer text ++ (piece ++ rest) = inFrames outer (text ++ piece) ++ rest := by
  induction outer generalizing text with
  | nil => rw [inFrames, inFrames, List.append_assoc]
  | cons enclosing outer ih => rw [inFrames, inFrames, ih, List.append_assoc, List.cons_append]

/-- A character behind blanks stands in the text behind them. -/
theorem exists_blanks {cursor start : Cursor} {rest : Text} (hs : skipBlanks cursor = .ok () start)
    (hr : start.rest = rest) : ∃ blanks, (∀ c ∈ blanks, Text.isBlank c = true) ∧
      cursor.rest = blanks ++ rest := by
  cases hs
  refine ⟨cursor.rest.takeWhile Text.isBlank, fun c => Text.mem_takeWhile, ?_⟩
  rw [← hr]
  exact List.takeWhile_append_dropWhile.symm

theorem Cuts.exists_isPiece {read : Reading Path} (h : Cuts StartsAsOrStops read)
    {cursor left : Cursor} {path : Path} (hr : read cursor = .ok path left) :
    ∃ piece, cursor.rest = piece ++ left.rest ∧ IsPiece read piece path := by
  obtain ⟨piece, htext, hf, ht⟩ := h cursor left path hr
  exact ⟨piece, htext, hf, fun rest hs => ht rest (.inr hs)⟩

/-- **What is read** from a place on completes what was spelled in front of it. -/
theorem Reads.exists_spells {phase : Phase} {outer : List Frame} {frame : Frame} {cursor : Cursor}
    {path : Path} (h : Reads phase outer frame cursor path) {text : Text} {texts : List Text}
    (ht : Spells phase text frame) (ho : List.Forall₂ (Spells .path) texts outer) :
    ∃ last, Spells .behind (inFrames texts text ++ cursor.rest) last ∧ last.path = path := by
  -- by the rules: what each of them takes is added to the text of the frame, or closes it
  induction h generalizing text texts with
  | @opening outer frame cursor start rest path hs hr _ ih =>
    obtain ⟨blanks, hb, hcursor⟩ := exists_blanks hs hr
    have hlast := ih .start (.cons (ht.blanks hb) ho)
    rw [inFrames, ← inFrames_append] at hlast
    rw [hcursor, inFrames_append]
    exact hlast
  | @point outer frame cursor start behind left rest step branch path hs hr hf hp _ ih =>
    obtain ⟨blanks, hb, hcursor⟩ := exists_blanks hs hr
    have hcuts : Cuts StartsAsOrStops readPointed := cuts_readFirst.bind fun step =>
      cuts_readSteps [step]
    obtain ⟨piece, hpiece, hp⟩ := hcuts.exists_isPiece (bind_eq_ok.2 ⟨step, behind, hf, hp⟩)
    have hrest : rest = piece ++ left.rest := hpiece
    have hlast := ih ((ht.blanks hb).pointed hp) ho
    rw [← inFrames_append] at hlast
    rw [hcursor, inFrames_append, hrest]
    exact hlast
  | @comma outer frame cursor start rest path hs hr _ ih =>
    obtain ⟨blanks, hb, hcursor⟩ := exists_blanks hs hr
    have hlast := ih (ht.blanks hb).comma ho
    rw [← inFrames_append] at hlast
    rw [hcursor, inFrames_append]
    exact hlast
  | @bar outer frame cursor start rest path hs hr _ ih =>
    obtain ⟨blanks, hb, hcursor⟩ := exists_blanks hs hr
    have hlast := ih (ht.blanks hb).bar ho
    rw [← inFrames_append] at hlast
    rw [hcursor, inFrames_append]
    exact hlast
  | @closing outer frame enclosing cursor start left rest branch path hs hr hp _ ih =>
    obtain ⟨blanks, hb, hcursor⟩ := exists_blanks hs hr
    obtain ⟨piece, hpiece, hp⟩ := (cuts_readSteps [frame.path]).exists_isPiece hp
    have hrest : rest = piece ++ left.rest := hpiece
    cases ho with
    | @cons outerText _ outerTexts _ hfirst ho =>
      have hlast := ih (hfirst.group (ht.blanks hb) hp) ho
      rw [← List.cons_append, ← List.append_assoc, ← inFrames_append] at hlast
      rw [hcursor, inFrames_append, hrest, inFrames]
      exact hlast
  | @ends frame cursor start hs hr =>
    cases ho
    obtain ⟨blanks, hb, hcursor⟩ := exists_blanks hs hr
    rw [hcursor, List.append_nil]
    exact ⟨frame, ht.blanks hb, rfl⟩

/-- **The texts that spell a path** are those that spell a frame with this path. -/
theorem ofText_eq_ok_iff_spells {text : Text} {path : Path} :
    ofText text = .ok path ↔ ∃ frame, Spells .behind text frame ∧ frame.path = path := by
  constructor
  · intro h
    exact (ofText_eq_ok_iff.1 h).exists_spells .start .nil
  · rintro ⟨frame, h, rfl⟩
    exact h.ofText

/-! ### Texts in one another -/

/-- A frame behind stages that were read in front of it. -/
def Frame.over (stages : List Path) (frame : Frame) : Frame :=
  ⟨frame.stages ++ stages, frame.branches⟩

/-- **A text goes on with a frame** that has stages and no branches where it starts. -/
theorem Spells.append {text more : Text} {frame last : Frame} {phase : Phase}
    (h : Spells .path text frame) (hb : frame.branches = []) (hm : Spells phase more last) :
    Spells phase (text ++ more) (last.over frame.stages) := by
  induction hm with
  | start =>
    have hframe : Frame.empty.over frame.stages = frame := congrArg (Frame.mk frame.stages) hb.symm
    rw [List.append_nil, hframe]
    exact h
  | blank _ hc ih => exact List.append_assoc .. ▸ ih.blank hc
  | pointed _ hp ih => exact List.append_assoc .. ▸ ih.pointed hp
  | group _ hi hp ih => exact List.append_assoc .. ▸ ih.group hi hp
  | comma _ ih => exact List.append_assoc .. ▸ ih.comma
  | bar _ ih => exact List.append_assoc .. ▸ ih.bar

/-! ### Balanced texts -/

theorem Flat.balanced {text : Text} (h : Flat text) : Text.Balanced text := by
  induction h with
  | nil => exact .nil
  | cons hc _ ih =>
    simp only [delimiters, List.mem_cons, List.not_mem_nil, or_false, not_or] at hc
    exact .cons ⟨hc.1, hc.2.1⟩ ⟨hc.2.2.1, hc.2.2.2.1⟩ ih
  | quoted hb _ ih => exact .quoted hb ih

theorem Spells.balanced {phase : Phase} {text : Text} {frame : Frame}
    (h : Spells phase text frame) : Text.Balanced text := by
  induction h with
  | start => exact .nil
  | blank _ hc ih => exact ih.append (flat_blanks (by simpa using hc)).balanced
  | pointed _ hp ih => exact ih.append (hp.1.cons (by decide)).balanced
  | group _ _ hp ih ihi => exact ih.append (.parens ihi hp.1.balanced)
  | comma _ ih => exact ih.append (.cons (by decide) (by decide) .nil)
  | bar _ ih => exact ih.append (.cons (by decide) (by decide) .nil)

/-- **The parentheses of a text that spells a path** are balanced, but for those in quoted names. -/
theorem balanced_of_ofText {text : Text} {path : Path} (h : ofText text = .ok path) :
    Text.Balanced text := by
  obtain ⟨_, hs, -⟩ := ofText_eq_ok_iff_spells.1 h
  exact hs.balanced

end Condition.Path
