import Condition.Query.Path.Reading
import Mathlib.Data.List.Infix

/-! # Readings of paths

What the readings of the parts of a path leave is an end of the text they started from (`Leaves`),
and what they do with paths and parentheses is given by one rule for each character that may stand
there (`Reads`): a path is read just as the rules say (`read_eq_ok_iff`).

* `leaves_readBracket`, `leaves_readDotted`, `leaves_readFirst`: the steps of a path.
* `ofText_eq_ok_iff`: the texts that spell a path.
* `ofText_of_readsText`: the rules for a text that is given (`Takes`, `ReadsText`). -/

namespace Condition.Path

/-! ### What a reading leaves -/

/-- A reading leaves an end of its text, and what it gives has a property. -/
def Leaves {α : Type} (P : α → Prop) (read : Reading α) : Prop :=
  ∀ (cursor left : Cursor) (a : α), read cursor = .ok a left → left.rest <:+ cursor.rest ∧ P a

namespace Leaves

variable {α β : Type} {P : α → Prop} {R : β → Prop}

theorem of_ok {read : Reading α} (h : Leaves P read) {cursor left : Cursor} {a : α}
    (hr : read cursor = .ok a left) : left.rest <:+ cursor.rest ∧ P a :=
  h cursor left a hr

theorem pure {b : β} (h : R b) : Leaves R (Pure.pure b) := by
  intro cursor left a hr
  change EStateM.Result.ok b cursor = .ok a left at hr
  cases hr
  exact ⟨List.suffix_rfl, h⟩

theorem bind {read : Reading α} {next : α → Reading β} (h : Leaves P read)
    (hn : ∀ a, P a → Leaves R (next a)) : Leaves R (read >>= next) := by
  intro cursor left b hr
  obtain ⟨a, t, ha, hb⟩ := bind_eq_ok.1 hr
  obtain ⟨hs, hp⟩ := h.of_ok ha
  obtain ⟨hs', hr⟩ := (hn a hp).of_ok hb
  exact ⟨hs'.trans hs, hr⟩

theorem map {read : Reading α} {f : α → β} (h : Leaves P read) (hf : ∀ a, P a → R (f a)) :
    Leaves R (f <$> read) := by
  intro cursor left b hr
  obtain ⟨a, ha, rfl⟩ := map_eq_ok.1 hr
  obtain ⟨hs, hp⟩ := h.of_ok ha
  exact ⟨hs, hf a hp⟩

end Leaves

theorem leaves_skipBlanks : Leaves (fun _ => True) skipBlanks := by
  intro cursor left a h
  cases h
  exact ⟨List.dropWhile_suffix _, trivial⟩

theorem leaves_expectNext (wanted : Char) : Leaves (fun _ => True) (expectNext wanted) := by
  intro cursor left a h
  unfold expectNext at h
  split at h
  · cases h
  · rename_i c rest hr
    split at h
    · cases h
      exact ⟨hr ▸ List.suffix_cons c rest, trivial⟩
    · cases h

theorem leaves_expect (wanted : Char) : Leaves (fun _ => True) (expect wanted) :=
  leaves_skipBlanks.bind fun _ _ => leaves_expectNext wanted

theorem suffix_contentFrom {offset : Nat} {text found : Text} {left : Cursor}
    (h : contentFrom offset text = .ok found left) : left.rest <:+ text := by
  fun_induction contentFrom offset text generalizing found with
  | case1 | case3 | case6 => cases h
  | case2 => cases h; exact List.suffix_cons ..
  | case4 => cases h; exact List.suffix_cons ..
  | case5 offset d rest hq plain hp ih =>
    obtain ⟨_, hr⟩ := consFound_eq_ok h
    exact (ih hr).trans ((List.suffix_cons d rest).trans (List.suffix_cons _ _))
  | case7 offset c d rest hq hb ih =>
    obtain ⟨_, hr⟩ := consFound_eq_ok h
    exact (ih hr).trans (List.suffix_cons c _)

theorem leaves_readQuoted : Leaves (fun _ => True) readQuoted :=
  (leaves_expectNext '"').bind fun _ _ _ _ _ h => ⟨suffix_contentFrom h, trivial⟩

theorem leaves_readName : Leaves (fun _ => True) readName := by
  intro cursor left name h
  unfold readName at h
  split at h
  · cases h
  · rename_i c rest hr
    split at h
    · exact leaves_readQuoted.of_ok h
    · split at h
      · cases h
        exact ⟨hr ▸ (List.dropWhile_suffix _).trans (List.suffix_cons c rest), trivial⟩
      · cases h

theorem leaves_readIndex : Leaves (fun _ => True) readIndex := by
  intro cursor left place h
  unfold readIndex at h
  dsimp only at h
  split at h
  · cases h
    refine ⟨(List.dropWhile_suffix _).trans ?_, trivial⟩
    split
    · exact List.tail_suffix _
    · exact List.suffix_rfl
  · cases h

/-! ### Steps -/

/-- A path that is a single step. -/
def IsStep : Path → Prop
  | .identity | .field _ | .index _ | .iterate => True
  | _ => False

theorem leaves_readInBrackets : Leaves IsStep readInBrackets := by
  intro cursor left step h
  unfold readInBrackets at h
  split at h
  · cases h
  · split at h
    · cases h
      exact ⟨List.suffix_rfl, trivial⟩
    · split at h
      · exact (leaves_readQuoted.map fun _ _ => trivial :
          Leaves IsStep (.field <$> readQuoted)).of_ok h
      · split at h
        · exact (leaves_readIndex.map fun _ _ => trivial :
            Leaves IsStep (.index <$> readIndex)).of_ok h
        · cases h

theorem leaves_readBracket : Leaves IsStep readBracket :=
  (leaves_expectNext '[').bind fun _ _ => leaves_skipBlanks.bind fun _ _ =>
    leaves_readInBrackets.bind fun _ hstep => (leaves_expect ']').bind fun _ _ => .pure hstep

theorem leaves_readDotted : Leaves IsStep readDotted := by
  intro cursor left step h
  unfold readDotted at h
  split at h
  · exact leaves_readBracket.of_ok h
  · exact (leaves_readName.map fun _ _ => trivial : Leaves IsStep (.field <$> readName)).of_ok h

theorem leaves_readFirst : Leaves IsStep readFirst := by
  intro cursor left step h
  unfold readFirst at h
  split at h
  · cases h
    exact ⟨List.suffix_rfl, trivial⟩
  · split at h
    · exact leaves_readDotted.of_ok h
    · cases h
      exact ⟨List.suffix_rfl, trivial⟩

/-! ### Paths and parentheses -/

/-- Where a reading of paths stands: in front of a path, or behind one. -/
inductive Phase where
  | path
  | behind

/-- **The rules of paths**: what the open frames come to from a place in the text on. -/
inductive Reads : Phase → List Frame → Frame → Cursor → Path → Prop where
  | opening {outer : List Frame} {frame : Frame} {cursor start : Cursor} {rest : Text} {path : Path}
    (hs : skipBlanks cursor = .ok () start) (hr : start.rest = '(' :: rest)
    (h : Reads .path (frame :: outer) .empty (start.past ['('] rest) path) :
    Reads .path outer frame cursor path
  | point {outer : List Frame} {frame : Frame} {cursor start behind left : Cursor} {rest : Text}
    {step branch path : Path} (hs : skipBlanks cursor = .ok () start)
    (hr : start.rest = '.' :: rest)
    (hf : readFirst (start.past ['.'] rest) = .ok step behind)
    (hp : readSteps [step] behind = .ok branch left)
    (h : Reads .behind outer (frame.withBranch branch) left path) :
    Reads .path outer frame cursor path
  | comma {outer : List Frame} {frame : Frame} {cursor start : Cursor} {rest : Text} {path : Path}
    (hs : skipBlanks cursor = .ok () start) (hr : start.rest = ',' :: rest)
    (h : Reads .path outer frame (start.past [','] rest) path) :
    Reads .behind outer frame cursor path
  | bar {outer : List Frame} {frame : Frame} {cursor start : Cursor} {rest : Text} {path : Path}
    (hs : skipBlanks cursor = .ok () start) (hr : start.rest = '|' :: rest)
    (h : Reads .path outer frame.withBar (start.past ['|'] rest) path) :
    Reads .behind outer frame cursor path
  | closing {outer : List Frame} {frame enclosing : Frame} {cursor start left : Cursor}
    {rest : Text}
    {branch path : Path} (hs : skipBlanks cursor = .ok () start) (hr : start.rest = ')' :: rest)
    (hp : readSteps [frame.path] (start.past [')'] rest) = .ok branch left)
    (h : Reads .behind outer (enclosing.withBranch branch) left path) :
    Reads .behind (enclosing :: outer) frame cursor path
  | ends {frame : Frame} {cursor start : Cursor} (hs : skipBlanks cursor = .ok () start)
    (hr : start.rest = []) : Reads .behind [] frame cursor frame.path

theorem readPath_eq (outer : List Frame) (frame : Frame) (cursor : Cursor) :
    readPath outer frame cursor =
      match skipBlanks cursor with
      | .error e _ => .error e
      | .ok () start =>
        match start.rest with
        | [] => .error (.malformed (.expected '.' none) start.offset)
        | c :: rest =>
          if c = '(' then readPath (frame :: outer) .empty (start.past [c] rest)
          else if c = '.' then
            match readFirst (start.past [c] rest) with
            | .error e _ => .error e
            | .ok step behind =>
              match readSteps [step] behind with
              | .error e _ => .error e
              | .ok path left => readBehind outer (frame.withBranch path) left
          else .error (.malformed (.expected '.' (some c)) start.offset) := by
  rw [readPath]
  split
  · rename_i hs
    simp only [hs]
  · rename_i start hs
    simp only [hs]
    split
    · rename_i hr
      simp only [hr]
    · rename_i c rest hr
      simp only [hr]
      refine if_congr Iff.rfl rfl (if_congr Iff.rfl ?_ rfl)
      split
      · rename_i hf
        simp only [hf]
      · rename_i hf
        simp only [hf]
        split
        · rename_i hp
          simp only [hp]
        · rename_i hp
          simp only [hp]

theorem readBehind_eq (outer : List Frame) (frame : Frame) (cursor : Cursor) :
    readBehind outer frame cursor =
      match skipBlanks cursor with
      | .error e _ => .error e
      | .ok () start =>
        match start.rest, outer with
        | [], [] => .ok frame.path
        | [], _ :: _ => .error (.malformed (.expected ')' none) start.offset)
        | c :: rest, outer =>
          if c = ',' then readPath outer frame (start.past [c] rest)
          else if c = '|' then readPath outer frame.withBar (start.past [c] rest)
          else
            match outer with
            | [] => .error (.malformed (.unexpected c) start.offset)
            | enclosing :: outer =>
              if c = ')' then
                match readSteps [frame.path] (start.past [c] rest) with
                | .error e _ => .error e
                | .ok path left => readBehind outer (enclosing.withBranch path) left
              else .error (.malformed (.expected ')' (some c)) start.offset) := by
  rw [readBehind]
  split
  · rename_i hs
    simp only [hs]
  · rename_i start hs
    simp only [hs]
    split
    · rename_i hr
      simp only [hr]
    · rename_i hr
      simp only [hr]
    · rename_i c rest outer hr
      simp only [hr]
      refine if_congr Iff.rfl rfl (if_congr Iff.rfl rfl ?_)
      split
      · rfl
      · refine if_congr Iff.rfl ?_ rfl
        split
        · rename_i hp
          simp only [hp]
        · rename_i hp
          simp only [hp]

/-- What is read keeps to the rules. -/
theorem reads_of_eq_ok :
    (∀ outer frame cursor, ∀ path, readPath outer frame cursor = .ok path →
      Reads .path outer frame cursor path) ∧
    ∀ outer frame cursor, ∀ path, readBehind outer frame cursor = .ok path →
      Reads .behind outer frame cursor path := by
  apply readPath.mutual_induct
  case case3 =>
    intro outer frame cursor start hs rest hr ih path h
    rw [readPath_eq] at h
    simp only [hs, hr, if_true] at h
    exact .opening hs hr (ih path h)
  case case6 =>
    intro outer frame cursor start hs rest step behind branch left hp hr hc hf ih path h
    rw [readPath_eq] at h
    simp only [hs, hr, if_neg hc, if_true, hf, hp] at h
    exact .point hs hr hf hp (ih path h)
  case case9 =>
    intro frame cursor start hs hr path h
    rw [readBehind_eq] at h
    simp only [hs, hr] at h
    cases h
    exact .ends hs hr
  case case11 =>
    intro frame cursor start hs rest outer hr ih path h
    rw [readBehind_eq] at h
    simp only [hs, hr, if_true] at h
    exact .comma hs hr (ih path h)
  case case12 =>
    intro frame cursor start hs rest outer hr hc ih path h
    rw [readBehind_eq] at h
    simp only [hs, hr, if_neg hc, if_true] at h
    exact .bar hs hr (ih path h)
  case case15 =>
    intro frame cursor start hs rest enclosing outer branch left hr hc hb hp ih path h
    rw [readBehind_eq] at h
    simp only [hs, hr, if_neg hc, if_neg hb, if_true, hp] at h
    exact .closing hs hr hp (ih path h)
  -- in the other cases nothing is read
  case case1 | case2 | case4 | case5 | case7 =>
    intros
    rename_i h
    rw [readPath_eq] at h
    simp_all
  case case8 | case10 | case13 | case14 | case16 =>
    intros
    rename_i h
    rw [readBehind_eq] at h
    simp_all

/-- The reading of paths at a place. -/
def Phase.read : Phase → List Frame → Frame → Cursor → Except Query.Error Path
  | .path => readPath
  | .behind => readBehind

/-- What the rules give is read. -/
theorem Reads.eq_ok {phase : Phase} {outer : List Frame} {frame : Frame} {cursor : Cursor}
    {path : Path}
    (h : Reads phase outer frame cursor path) : phase.read outer frame cursor = .ok path := by
  induction h with
  | opening hs hr _ ih =>
    rw [Phase.read, readPath_eq]
    simp only [hs, hr, if_true]
    exact ih
  | point hs hr hf hp _ ih =>
    rw [Phase.read, readPath_eq]
    simp only [hs, hr, if_neg (by decide : ¬ '.' = '('), if_true, hf, hp]
    exact ih
  | comma hs hr _ ih =>
    rw [Phase.read, readBehind_eq]
    simp only [hs, hr, if_true]
    exact ih
  | bar hs hr _ ih =>
    rw [Phase.read, readBehind_eq]
    simp only [hs, hr, if_neg (by decide : ¬ '|' = ','), if_true]
    exact ih
  | closing hs hr hp _ ih =>
    rw [Phase.read, readBehind_eq]
    simp only [hs, hr, if_neg (by decide : ¬ ')' = ','), if_neg (by decide : ¬ ')' = '|'),
      if_true, hp]
    exact ih
  | ends hs hr =>
    rw [Phase.read, readBehind_eq]
    simp only [hs, hr]

/-- **The paths that are read** are those that the rules give. -/
theorem read_eq_ok_iff {phase : Phase} {outer : List Frame} {frame : Frame} {cursor : Cursor}
    {path : Path} : phase.read outer frame cursor = .ok path ↔
      Reads phase outer frame cursor path := by
  refine ⟨fun h => ?_, Reads.eq_ok⟩
  cases phase with
  | path => exact reads_of_eq_ok.1 outer frame cursor path h
  | behind => exact reads_of_eq_ok.2 outer frame cursor path h

/-- The texts that spell a path. -/
theorem ofText_eq_ok_iff {text : Text} {path : Path} :
    ofText text = .ok path ↔ Reads .path [] .empty ⟨text, 0⟩ path :=
  (read_eq_ok_iff : Phase.read .path [] .empty ⟨text, 0⟩ = .ok path ↔ _)

/-! ### What a reading takes -/

/-- Whether a reading takes a text up to some rest, wherever the text stands. -/
def Takes {α : Type} (read : Reading α) (text : Text) (found : α) (rest : Text) : Prop :=
  ∀ offset, ∃ behind, read ⟨text, offset⟩ = .ok found ⟨rest, behind⟩

theorem Takes.bind {α β : Type} {read : Reading α} {next : α → Reading β} {text rest last : Text}
    {a : α} {b : β} (h : Takes read text a rest) (hn : Takes (next a) rest b last) :
    Takes (read >>= next) text b last := by
  intro offset
  obtain ⟨_, h⟩ := h offset
  obtain ⟨behind, hn⟩ := hn _
  exact ⟨behind, bind_eq_ok.2 ⟨a, _, h, hn⟩⟩

theorem Takes.map {α β : Type} {read : Reading α} {text rest : Text} {a : α}
    (h : Takes read text a rest) (f : α → β) : Takes (f <$> read) text (f a) rest := by
  intro offset
  obtain ⟨behind, h⟩ := h offset
  exact ⟨behind, map_eq_ok.2 ⟨a, h, rfl⟩⟩

theorem Takes.pure {α : Type} (a : α) (text : Text) : Takes (Pure.pure a) text a text :=
  fun offset => ⟨offset, rfl⟩

theorem takes_expectNext (c : Char) (rest : Text) : Takes (expectNext c) (c :: rest) () rest := by
  intro offset
  refine ⟨offset + Text.utf8Length [c], ?_⟩
  simp only [expectNext, if_true]
  rfl

theorem takes_skipBlanks {c : Char} (h : Text.isBlank c = false) (rest : Text) :
    Takes skipBlanks (c :: rest) () (c :: rest) := by
  intro offset
  refine ⟨offset, ?_⟩
  simp only [skipBlanks, List.takeWhile_cons, List.dropWhile_cons, h]
  rfl

theorem takes_expect {c : Char} (h : Text.isBlank c = false) (rest : Text) :
    Takes (expect c) (c :: rest) () rest :=
  (takes_skipBlanks h rest).bind (takes_expectNext c rest)

/-! ### Paths, wherever their text stands -/

/-- What the open frames come to with a text, at whatever offset it stands. -/
def ReadsText (phase : Phase) (outer : List Frame) (frame : Frame) (text : Text)
    (path : Path) : Prop :=
  ∀ offset, Reads phase outer frame ⟨text, offset⟩ path

section

variable {outer : List Frame} {frame enclosing : Frame} {text more rest : Text}
  {step branch path : Path}

theorem readsText_opening (h : ReadsText .path (frame :: outer) .empty rest path) :
    ReadsText .path outer frame ('(' :: rest) path := by
  intro offset
  obtain ⟨_, hs⟩ := takes_skipBlanks (c := '(') rfl rest offset
  exact .opening hs rfl (h _)

theorem readsText_steps (hp : Takes (readFirst >>= fun step => readSteps [step]) text branch rest)
    (h : ReadsText .behind outer (frame.withBranch branch) rest path) :
    ReadsText .path outer frame ('.' :: text) path := by
  intro offset
  obtain ⟨_, hs⟩ := takes_skipBlanks (c := '.') rfl text offset
  obtain ⟨_, hp⟩ := hp _
  obtain ⟨_, _, hf, hp⟩ := bind_eq_ok.1 hp
  exact .point hs rfl hf hp (h _)

theorem readsText_point (hf : Takes readFirst text step more)
    (hp : Takes (readSteps [step]) more branch rest)
    (h : ReadsText .behind outer (frame.withBranch branch) rest path) :
    ReadsText .path outer frame ('.' :: text) path :=
  readsText_steps (hf.bind hp) h

theorem readsText_comma (h : ReadsText .path outer frame rest path) :
    ReadsText .behind outer frame (',' :: rest) path := by
  intro offset
  obtain ⟨_, hs⟩ := takes_skipBlanks (c := ',') rfl rest offset
  exact .comma hs rfl (h _)

theorem readsText_bar (h : ReadsText .path outer frame.withBar rest path) :
    ReadsText .behind outer frame ('|' :: rest) path := by
  intro offset
  obtain ⟨_, hs⟩ := takes_skipBlanks (c := '|') rfl rest offset
  exact .bar hs rfl (h _)

theorem readsText_closing (hp : Takes (readSteps [frame.path]) text branch rest)
    (h : ReadsText .behind outer (enclosing.withBranch branch) rest path) :
    ReadsText .behind (enclosing :: outer) frame (')' :: text) path := by
  intro offset
  obtain ⟨_, hs⟩ := takes_skipBlanks (c := ')') rfl text offset
  obtain ⟨_, hp⟩ := hp _
  exact .closing hs rfl hp (h _)

theorem readsText_ends : ReadsText .behind [] frame [] frame.path :=
  fun _ => .ends rfl rfl

/-- A text that is read as a path alone spells it. -/
theorem ofText_of_readsText (h : ReadsText .path [] .empty text path) : ofText text = .ok path :=
  ofText_eq_ok_iff.2 (h 0)

/-- Neither a name nor a step goes on in front of this text. -/
def StopsPath (rest : Text) : Prop :=
  ∀ c, rest.head? = some c → Text.continuesWord c = false ∧ c ∉ ['[', '"', '?', '.']

theorem stopsPath_nil : StopsPath [] := by
  rintro c ⟨⟩

theorem stopsPath_cons {c : Char} (h : c ∈ [',', '|', ')']) (rest : Text) :
    StopsPath (c :: rest) := by
  rintro d ⟨⟩
  simp only [List.mem_cons, List.not_mem_nil, or_false] at h
  rcases h with rfl | rfl | rfl <;> decide

theorem startsWord_of_continuesWord {c : Char} (h : Text.continuesWord c = false) :
    Text.startsWord c = false :=
  Bool.eq_false_iff.2 fun hs => Bool.eq_false_iff.1 h (Text.continuesWord_of_startsWord hs)

theorem takes_readFirst_of_stops (h : StopsPath rest) : Takes readFirst rest .identity rest := by
  intro offset
  refine ⟨offset, ?_⟩
  cases rest with
  | nil => rfl
  | cons c rest =>
    obtain ⟨hw, hc⟩ := h c rfl
    simp only [List.mem_cons, List.not_mem_nil, or_false, not_or] at hc
    have hstep : ¬(c = '[' ∨ c = '"' ∨ Text.startsWord c = true) := by
      rw [startsWord_of_continuesWord hw]
      simp [hc]
    simp only [readFirst, if_neg hstep]

/-- Where no step starts, no further step is taken. -/
theorem takes_readSteps_of_head {c : Char} (h : c ≠ '[' ∧ c ≠ '?' ∧ c ≠ '.')
    (hr : rest.head? = some c) (steps : List Path) :
    Takes (readSteps steps) rest (sequence steps.reverse) rest := by
  obtain ⟨more, rfl⟩ := List.head?_eq_some_iff.1 hr
  intro offset
  refine ⟨offset, ?_⟩
  rw [readSteps]
  dsimp only
  rw [dif_neg h.1, if_neg h.2.1, if_neg h.2.2]

theorem takes_readSteps_of_stops (h : StopsPath rest) (steps : List Path) :
    Takes (readSteps steps) rest (sequence steps.reverse) rest := by
  cases rest with
  | nil =>
    intro offset
    exact ⟨offset, by rw [readSteps]⟩
  | cons c rest =>
    have hc := (h c rfl).2
    simp only [List.mem_cons, List.not_mem_nil, or_false, not_or] at hc
    exact takes_readSteps_of_head ⟨hc.1, hc.2.2.1, hc.2.2.2⟩ rfl steps

theorem takes_readSteps_nil (steps : List Path) :
    Takes (readSteps steps) [] (sequence steps.reverse) [] :=
  takes_readSteps_of_stops stopsPath_nil steps

/-- A question mark makes the last step optional. -/
theorem takes_readSteps_mark {steps : List Path}
    (h : Takes (readSteps (markOptional steps)) text path rest) :
    Takes (readSteps steps) ('?' :: text) path rest := by
  intro offset
  obtain ⟨behind, h⟩ := h _
  refine ⟨behind, ?_⟩
  rw [readSteps]
  dsimp only
  rw [dif_neg (by decide), if_pos rfl]
  exact h

/-- Question marks make the last step optional, each once more. -/
theorem takes_readSteps_marks {steps : List Path} (n : Nat)
    (h : Takes (readSteps (Nat.iterate .optional n step :: steps)) text path rest) :
    Takes (readSteps (step :: steps)) (List.replicate n '?' ++ text) path rest := by
  induction n generalizing step with
  | zero => exact h
  | succ n ih => exact takes_readSteps_mark (ih h)

/-- A step in brackets is one more step of a path. -/
theorem takes_readSteps_bracket {steps : List Path} {last : Text}
    (h : Takes readBracket ('[' :: text) step rest)
    (hs : Takes (readSteps (step :: steps)) rest path last) :
    Takes (readSteps steps) ('[' :: text) path last := by
  intro offset
  obtain ⟨_, h⟩ := h offset
  obtain ⟨behind, hs⟩ := hs _
  refine ⟨behind, ?_⟩
  rw [readSteps]
  dsimp only
  rw [dif_pos rfl]
  split
  · rename_i found left hr
    cases h.symm.trans hr
    exact hs
  · rename_i e left hr
    cases h.symm.trans hr

/-- A step behind a point is one more step of a path. -/
theorem takes_readSteps_point {steps : List Path} {last : Text}
    (h : Takes readDotted text step rest) (hs : Takes (readSteps (step :: steps)) rest path last) :
    Takes (readSteps steps) ('.' :: text) path last := by
  intro offset
  obtain ⟨_, h⟩ := h _
  obtain ⟨behind, hs⟩ := hs _
  refine ⟨behind, ?_⟩
  rw [readSteps]
  dsimp only
  rw [dif_neg (by decide), if_neg (by decide), if_pos rfl]
  split
  · rename_i found left hr
    cases h.symm.trans hr
    exact hs
  · rename_i e left hr
    cases h.symm.trans hr

end

end Condition.Path
