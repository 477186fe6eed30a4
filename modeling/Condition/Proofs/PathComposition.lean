import Condition.Proofs.PathGrammar

/-! # Paths from parts

A text that spells a path can stand in parentheses, beside another one in a comma list, and in front
of another one behind a bar, and spells the same path there. A bar adds the stages of the right text
to those of the left one (`stages`): they are cut at the bars that stand neither in parentheses nor
in a quoted name.

* `Spells.forall₂_stages`: the stages of a text spell the stages of its path.
* `ofText_composed`: groups, comma lists and pipes from texts that spell paths. -/

namespace Condition.Path

/-! ### The stages of a text -/

/-- The pieces of a text between the bars outside parentheses and quoted names, from a place inside
so many parentheses. -/
def stagesFrom (depth : Nat) (text : Text) : List Text :=
  match text with
  | [] => [[]]
  | c :: rest =>
    if c = '"' then
      match _h : Source.closeQuote '"' rest with
      | none => [c :: rest]
      | some (body, behind) => (stagesFrom depth behind).modifyHead ((c :: body) ++ ·)
    else if c = '|' ∧ depth = 0 then [] :: stagesFrom depth rest
    else (stagesFrom (Source.levelsBehind '(' ')' depth c) rest).modifyHead ([c] ++ ·)
termination_by text.length
decreasing_by
  · have := Source.closeQuote_shortens _h
    simp only [List.length_cons]
    omega
  · simp
  · simp

/-- **The stages of a text**: its pieces between the bars outside parentheses and quoted names. -/
def stages (text : Text) : List Text := stagesFrom 0 text

theorem stagesFrom_nil (depth : Nat) : stagesFrom depth [] = [[]] := by rw [stagesFrom]

theorem stagesFrom_bar (rest : Text) : stagesFrom 0 ('|' :: rest) = [] :: stagesFrom 0 rest := by
  rw [stagesFrom, if_neg (by decide), if_pos ⟨rfl, rfl⟩]

theorem stagesFrom_cons {depth : Nat} {c : Char} (hq : c ≠ '"') (hb : ¬(c = '|' ∧ depth = 0))
    (rest : Text) : stagesFrom depth (c :: rest) =
      (stagesFrom (Source.levelsBehind '(' ')' depth c) rest).modifyHead ([c] ++ ·) := by
  rw [stagesFrom, if_neg hq, if_neg hb]

theorem stagesFrom_quoted (depth : Nat) {body : Text}
    (hb : Source.closeQuote '"' body = some (body, [])) (rest : Text) :
    stagesFrom depth ('"' :: (body ++ rest)) =
      (stagesFrom depth rest).modifyHead (('"' :: body) ++ ·) := by
  have hclose : Source.closeQuote '"' (body ++ rest) = some (body, rest) :=
    Source.closeQuote_append_rest hb rest
  rw [stagesFrom, if_pos rfl]
  split
  · rename_i hnone
    rw [hclose] at hnone
    cases hnone
  · rename_i hsome
    rw [hclose] at hsome
    cases hsome
    rfl

example : stages "(.a | .b) | .[\"c|d\"]".toList = ["(.a | .b) ".toList, " .[\"c|d\"]".toList] := by
  decide +kernel

/-! ### Where a text is cut -/

/-- A text is cut into pieces that are complete, and one that goes on with whatever follows the
text. -/
def CutInto (depth : Nat) (text : Text) (done : List Text) (last : Text) : Prop :=
  ∀ rest, stagesFrom depth (text ++ rest) = done ++ (stagesFrom depth rest).modifyHead (last ++ ·)

/-- Whatever follows a text, no bar in it cuts it. -/
def Uncut (depth : Nat) (text : Text) : Prop := CutInto depth text [] text

theorem uncut_nil (depth : Nat) : Uncut depth [] := by
  intro rest
  exact (congrFun List.modifyHead_id _).symm

theorem CutInto.append {depth : Nat} {text piece last : Text} {done : List Text}
    (h : CutInto depth text done last) (hp : Uncut depth piece) :
    CutInto depth (text ++ piece) done (last ++ piece) := by
  intro rest
  rw [List.append_assoc, h, hp, List.nil_append, List.modifyHead_modifyHead]
  simp only [Function.comp_def, List.append_assoc]

theorem CutInto.bar {text last : Text} {done : List Text} (h : CutInto 0 text done last) :
    CutInto 0 (text ++ ['|']) (done ++ [last]) [] := by
  intro rest
  rw [List.append_assoc, h, List.singleton_append, stagesFrom_bar, List.append_assoc]
  exact congrArg (done ++ ·) (congrArg₂ List.cons (List.append_nil last) (uncut_nil 0 rest))

theorem uncut_cons {depth : Nat} {c : Char} (hq : c ≠ '"') (hp : c ≠ '(' ∧ c ≠ ')')
    (hb : ¬(c = '|' ∧ depth = 0)) : Uncut depth [c] := by
  intro rest
  have hlevel : Source.levelsBehind '(' ')' depth c = depth := by
    rw [Source.levelsBehind, if_neg hp.2, if_neg hp.1]
  rw [List.singleton_append, stagesFrom_cons hq hb, hlevel]
  rfl

theorem uncut_quoted (depth : Nat) {body : Text}
    (hb : Source.closeQuote '"' body = some (body, [])) : Uncut depth ('"' :: body) :=
  stagesFrom_quoted depth hb

/-- Inside parentheses no bar cuts. -/
theorem uncut_group {depth : Nat} {inner : Text} (h : Uncut (depth + 1) inner) :
    Uncut depth ('(' :: (inner ++ [')'])) := by
  intro rest
  have hopen : Source.levelsBehind '(' ')' depth '(' = depth + 1 := rfl
  have hclose : Source.levelsBehind '(' ')' (depth + 1) ')' = depth := rfl
  rw [List.cons_append, List.append_assoc,
    stagesFrom_cons (by decide) (fun h => absurd h.1 (by decide)), hopen, h, List.singleton_append,
    stagesFrom_cons (by decide) (fun h => absurd h.1 (by decide)), hclose, List.nil_append,
    List.modifyHead_modifyHead, List.modifyHead_modifyHead]
  simp only [Function.comp_def, List.nil_append, List.append_assoc, List.cons_append]

theorem Flat.uncut {text : Text} (h : Flat text) (depth : Nat) : Uncut depth text := by
  induction h with
  | nil => exact uncut_nil depth
  | cons hc _ ih =>
    simp only [delimiters, List.mem_cons, List.not_mem_nil, or_false, not_or] at hc
    obtain ⟨hq, -, hopen, hclose, hbar⟩ := hc
    exact (uncut_cons hq ⟨hopen, hclose⟩ fun hb => hbar hb.1).append ih
  | quoted hb _ ih => exact (uncut_quoted depth hb).append ih

theorem uncut_of_balanced {text : Text} (h : Text.Balanced text) (depth : Nat) :
    Uncut (depth + 1) text := by
  induction h generalizing depth with
  | nil => exact uncut_nil _
  | cons hq hp _ ih =>
    exact (uncut_cons hq.1 hp fun hb => absurd hb.2 (Nat.succ_ne_zero depth)).append (ih depth)
  | parens _ _ ihi ih =>
    have h := (uncut_group (ihi (depth + 1))).append (ih depth)
    rw [List.cons_append, List.append_assoc] at h
    exact h
  | quoted hb _ ih => exact (uncut_quoted _ hb).append (ih depth)

/-! ### The stages of a path -/

/-- A text that no bar cuts and that spells a path. -/
def IsStage (text : Text) (path : Path) : Prop := stages text = [text] ∧ ofText text = .ok path

theorem stages_of_uncut {text : Text} (h : Uncut 0 text) : stages text = [text] := by
  have hs := h []
  rw [List.append_nil, stagesFrom_nil] at hs
  exact hs.trans (congrArg (fun t => [t]) (List.append_nil text))

/-- **A text that spells a frame** is cut into the stages in the frame, and a text that spells its
branches. -/
theorem Spells.exists_cut {phase : Phase} {text : Text} {frame : Frame}
    (h : Spells phase text frame) : ∃ done last, CutInto 0 text done last ∧ Uncut 0 last ∧
      List.Forall₂ IsStage done frame.stages.reverse ∧ Spells phase last ⟨[], frame.branches⟩ := by
  induction h with
  | start => exact ⟨[], [], uncut_nil 0, uncut_nil 0, .nil, .start⟩
  | @blank phase text frame c _ hc ih =>
    obtain ⟨done, last, hcut, huncut, hdone, hlast⟩ := ih
    have hblank : Uncut 0 [c] := (flat_blanks (by simpa using hc)).uncut 0
    exact ⟨done, last ++ [c], hcut.append hblank, huncut.append hblank, hdone, hlast.blank hc⟩
  | @pointed text piece frame path _ hp ih =>
    obtain ⟨done, last, hcut, huncut, hdone, hlast⟩ := ih
    have hpiece : Uncut 0 ('.' :: piece) := (hp.1.cons (by decide)).uncut 0
    exact ⟨done, _, hcut.append hpiece, huncut.append hpiece, hdone, hlast.pointed hp⟩
  | @group text inner piece frame held path _ hi hp ih _ =>
    obtain ⟨done, last, hcut, huncut, hdone, hlast⟩ := ih
    have hpiece : Uncut 0 ('(' :: (inner ++ ')' :: piece)) := by
      have h := (uncut_group (uncut_of_balanced hi.balanced 0)).append (hp.1.uncut 0)
      rw [List.cons_append, List.append_assoc] at h
      exact h
    exact ⟨done, _, hcut.append hpiece, huncut.append hpiece, hdone, hlast.group hi hp⟩
  | comma _ ih =>
    obtain ⟨done, last, hcut, huncut, hdone, hlast⟩ := ih
    have hcomma : Uncut 0 [','] := uncut_cons (by decide) (by decide) (by decide)
    exact ⟨done, _, hcut.append hcomma, huncut.append hcomma, hdone, hlast.comma⟩
  | @bar text frame _ ih =>
    obtain ⟨done, last, hcut, huncut, hdone, hlast⟩ := ih
    have hstage : IsStage last (choice frame.branches.reverse) :=
      ⟨stages_of_uncut huncut, hlast.ofText⟩
    refine ⟨done ++ [last], [], hcut.bar, uncut_nil 0, ?_, .start⟩
    rw [Frame.withBar, List.reverse_cons]
    exact List.rel_append hdone (.cons hstage .nil)

/-- **The stages of a text** spell the stages of the frame that it spells. -/
theorem Spells.forall₂_stages {text : Text} {frame : Frame} (h : Spells .behind text frame) :
    List.Forall₂ IsStage (stages text) frame.withBar.stages.reverse := by
  obtain ⟨done, last, hcut, huncut, hdone, hlast⟩ := h.exists_cut
  have hstages := hcut []
  rw [List.append_nil, stagesFrom_nil] at hstages
  rw [stages, hstages, Frame.withBar, List.reverse_cons, List.modifyHead_cons, List.append_nil]
  exact List.rel_append hdone (.cons ⟨stages_of_uncut huncut, hlast.ofText⟩ .nil)

/-! ### Groups, comma lists and pipes -/

/-- A text in parentheses. -/
def inParens (text : Text) : Text := '(' :: (text ++ [')'])

/-- Two texts with a character between them that has a blank on each side. -/
def joined (text : Text) (c : Char) (other : Text) : Text := text ++ [' '] ++ [c] ++ [' '] ++ other

theorem isPiece_nil (path : Path) : IsPiece (readSteps [path]) [] path :=
  ⟨.nil, fun _ h => takes_readSteps_of_stops h [path]⟩

theorem isPiece_mark (path : Path) : IsPiece (readSteps [path]) ['?'] (.optional path) :=
  ⟨.cons (by decide) .nil, fun _ h => takes_readSteps_mark
    (takes_readSteps_of_stops h [.optional path])⟩

/-- A text in parentheses, with what follows it, is one more branch. -/
theorem Spells.inParens {text inner piece : Text} {frame held : Frame} {path : Path}
    (h : Spells .path text frame) (hi : Spells .behind inner held)
    (hp : IsPiece (readSteps [held.path]) piece path) :
    Spells .behind (text ++ (inParens inner ++ piece)) (frame.withBranch path) := by
  have h := h.group hi hp
  rw [List.append_cons inner] at h
  exact h

theorem ofText_inParens {text : Text} {path : Path} (h : ofText text = .ok path) :
    ofText (inParens text) = .ok path ∧ ofText (inParens text ++ ['?']) = .ok (.optional path) := by
  obtain ⟨held, hs, rfl⟩ := ofText_eq_ok_iff_spells.1 h
  have hplain := (Spells.start.inParens hs (isPiece_nil held.path)).ofText
  rw [List.append_nil] at hplain
  exact ⟨hplain, (Spells.start.inParens hs (isPiece_mark held.path)).ofText⟩

theorem ofText_comma {text other : Text} {path branch : Path} (h : ofText text = .ok path)
    (ho : ofText other = .ok branch) :
    ofText (joined (inParens text) ',' (inParens other)) = .ok (.comma [path, branch]) := by
  obtain ⟨left, hl, rfl⟩ := ofText_eq_ok_iff_spells.1 h
  obtain ⟨right, hr, rfl⟩ := ofText_eq_ok_iff_spells.1 ho
  have hfirst := Spells.start.inParens hl (isPiece_nil left.path)
  have hcomma := ((hfirst.blank (by decide : Text.isBlank ' ' = true)).comma).blank
    (by decide : Text.isBlank ' ' = true)
  have hboth := (hcomma.inParens hr (isPiece_nil right.path)).ofText
  rw [List.append_nil, List.append_nil, List.nil_append] at hboth
  exact hboth

theorem sequence_append {paths more : List Path} (hp : paths ≠ []) (hm : more ≠ []) :
    sequence (paths ++ more) = .pipe (paths ++ more) := by
  unfold sequence
  split
  · rename_i path heq
    have hlength := congrArg List.length heq
    have hpaths := List.length_pos_iff.2 hp
    have hmore := List.length_pos_iff.2 hm
    rw [List.length_append, List.length_singleton] at hlength
    omega
  · rfl

/-- **A bar between two texts** makes a pipe of the stages of both. -/
theorem ofText_pipe {text other : Text} {frame last : Frame} (h : Spells .behind text frame)
    (ho : Spells .behind other last) : ofText (joined text '|' other) =
      .ok (.pipe (frame.withBar.stages.reverse ++ last.withBar.stages.reverse)) := by
  have hbar := ((h.blank (by decide : Text.isBlank ' ' = true)).bar).blank
    (by decide : Text.isBlank ' ' = true)
  have hboth := (hbar.append rfl ho).ofText
  have hstages : (last.over frame.withBar.stages).withBar.stages.reverse =
      frame.withBar.stages.reverse ++ last.withBar.stages.reverse := by
    rw [← List.reverse_append]
    rfl
  have hne : ∀ frame : Frame, frame.withBar.stages.reverse ≠ [] :=
    fun frame => List.reverse_ne_nil_iff.2 (List.cons_ne_nil _ _)
  rw [Frame.path, hstages, sequence_append (hne frame) (hne last)] at hboth
  exact hboth

/-- **Paths from parts**: a text that spells a path spells it in parentheses too, and an optional
path with a question mark behind them; two such texts in parentheses with a comma between them spell
the comma list of the two paths, and with a bar between them the pipe of the stages of both. -/
theorem ofText_composed {text other : Text} {path branch : Path} (h : ofText text = .ok path)
    (ho : ofText other = .ok branch) :
    ofText (inParens text) = .ok path ∧
      ofText (inParens text ++ ['?']) = .ok (.optional path) ∧
      ofText (joined (inParens text) ',' (inParens other)) = .ok (.comma [path, branch]) ∧
      ∃ left right, List.Forall₂ IsStage (stages text) left ∧ path = sequence left ∧
        List.Forall₂ IsStage (stages other) right ∧ branch = sequence right ∧
        ofText (joined text '|' other) = .ok (.pipe (left ++ right)) := by
  obtain ⟨hparens, hmark⟩ := ofText_inParens h
  obtain ⟨frame, hs, hpath⟩ := ofText_eq_ok_iff_spells.1 h
  obtain ⟨last, hs', hbranch⟩ := ofText_eq_ok_iff_spells.1 ho
  exact ⟨hparens, hmark, ofText_comma h ho, _, _, hs.forall₂_stages, hpath.symm, hs'.forall₂_stages,
    hbranch.symm, ofText_pipe hs hs'⟩

/-- A word behind a point is a step to the member with that name. -/
theorem takes_readPointed_word {c : Char} {word rest : Text} (hc : Text.startsWord c = true)
    (hw : ∀ d ∈ word, Text.continuesWord d = true) (hr : StopsPath rest) :
    Takes readPointed (c :: (word ++ rest)) (.field (c :: word)) rest := by
  have hbracket : c ≠ '[' := by
    rintro rfl
    exact absurd hc (by decide)
  have hname : Takes readName (c :: (word ++ rest)) (c :: word) rest :=
    takes_readName_word hc hw fun d hd => (hr d hd).1
  have hfirst : Takes readFirst (c :: (word ++ rest)) (.field (c :: word)) rest := by
    intro offset
    obtain ⟨behind, h⟩ := hname.map Path.field offset
    refine ⟨behind, ?_⟩
    rw [readFirst_of_head (List.head?_cons), if_pos (.inr (.inr hc)), readDotted,
      if_neg (by simpa using hbracket)]
    exact h
  exact hfirst.bind (takes_readSteps_of_stops hr [.field (c :: word)])

/-- A bar in a quoted name, and one in parentheses, cut no stage. -/
theorem ofText_composed_of_quoted_bar :
    let text := ".a | .[\"b|c\"]?".toList
    let other := "(.d | .e)".toList
    let path := pipe [.field ['a'], .optional (.field ['b', '|', 'c'])]
    let branch := pipe [.field ['d'], .field ['e']]
    ofText text = .ok path ∧ ofText other = .ok branch ∧
      ofText (inParens text) = .ok path ∧
      ofText (inParens text ++ ['?']) = .ok (.optional path) ∧
      ofText (joined (inParens text) ',' (inParens other)) = .ok (.comma [path, branch]) ∧
      ∃ left right, List.Forall₂ IsStage (stages text) left ∧ path = sequence left ∧
        List.Forall₂ IsStage (stages other) right ∧ branch = sequence right ∧
        ofText (joined text '|' other) = .ok (.pipe (left ++ right)) := by
  intro text other path branch
  have hfield : ∀ c rest, Text.startsWord c = true → StopsPath rest →
      Takes readPointed (c :: rest) (.field [c]) rest :=
    fun c rest hc hr => takes_readPointed_word hc (List.forall_mem_nil _) hr
  have hquoted : Takes readPointed ['[', '"', 'b', '|', 'c', '"', ']', '?']
      (.optional (.field ['b', '|', 'c'])) [] :=
    Takes.bind (takes_readBracket_name ['b', '|', 'c'] ['?'])
      (takes_readSteps_mark (takes_readSteps_nil _))
  have hblank : ∀ rest, StopsPath (' ' :: rest) := stopsPath_blank (by decide)
  have h : ofText text = .ok path := by
    have htext : text = ['.', 'a', ' ', '|', ' ', '.', '[', '"', 'b', '|', 'c', '"', ']', '?'] := by
      decide
    rw [htext]
    refine ofText_of_readsText (readsText_steps (hfield 'a' _ (by decide) (hblank _)) ?_)
    refine readsText_blank (by decide) (readsText_bar (readsText_blank (by decide) ?_))
    exact readsText_steps hquoted readsText_ends
  have ho : ofText other = .ok branch := by
    have hother : other = ['(', '.', 'd', ' ', '|', ' ', '.', 'e', ')'] := by decide
    rw [hother]
    refine ofText_of_readsText (readsText_opening ?_)
    refine readsText_steps (hfield 'd' _ (by decide) (hblank _)) ?_
    refine readsText_blank (by decide) (readsText_bar (readsText_blank (by decide) ?_))
    refine readsText_steps (hfield 'e' _ (by decide) (stopsPath_cons (by decide) [])) ?_
    exact readsText_closing (takes_readSteps_nil [branch]) readsText_ends
  exact ⟨h, ho, ofText_composed h ho⟩

end Condition.Path
