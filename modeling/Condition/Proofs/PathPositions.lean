import Condition.Proofs.PathLockstep

/-! # The positions of a reading of paths

The walk over the text of a path by positions (`Walk.whole`) gives just what the reading of the text
gives, and never gets stuck: wherever it cuts the text, a character starts or the text ends. The
reading keeps what it has read on a list of open frames where the walk calls itself. So a walk
passes a part of a path if the frames in front of the part come to what the frames that hold its
path come to behind it (`Passes`).

* `passes_branches`, `passes_stages`, `passes_path`: the parts of a path, up to its parentheses.
* `reading_by_positions`: the whole text. -/

namespace Condition.Path

/-! ### Blanks -/

/-- The cursor behind blanks. -/
def Cursor.skipped (cursor : Cursor) : Cursor :=
  cursor.past (cursor.rest.takeWhile Text.isBlank) (cursor.rest.dropWhile Text.isBlank)

/-- The character behind blanks. -/
def Cursor.ahead (cursor : Cursor) : Option Char := cursor.skipped.rest.head?

theorem skipBlanks_eq (cursor : Cursor) : skipBlanks cursor = .ok () cursor.skipped := rfl

theorem skipped_skipped (cursor : Cursor) : cursor.skipped.skipped = cursor.skipped := by
  have hstop : ∀ c, (cursor.rest.dropWhile Text.isBlank).head? = some c → Text.isBlank c = false :=
    fun c => Text.head?_dropWhile_eq_false
  have hrun := Text.takeWhile_append_stop (List.forall_mem_nil _) hstop
  simp only [Cursor.skipped, Cursor.past, List.nil_append] at hrun ⊢
  rw [hrun.1, hrun.2]
  rfl

theorem ahead_skipped (cursor : Cursor) : cursor.skipped.ahead = cursor.ahead := by
  rw [Cursor.ahead, skipped_skipped, Cursor.ahead]

theorem length_skipped (cursor : Cursor) : cursor.skipped.rest.length ≤ cursor.rest.length :=
  length_skipBlanks (skipBlanks_eq cursor)

theorem Walk.Goes.skip {β : Type} {cursor : Cursor} {more : Unit → Walk β}
    {after : β → Cursor → Prop}
    {fails : Query.Error → Prop} (h : Goes cursor.skipped (more ()) after fails) :
    Goes cursor (Walk.skipBlanks >>= more) after fails :=
  (goes_class Text.isBlank cursor).bind fun _ _ hleft => hleft ▸ h

/-! ### In front of a path and behind it -/

/-- What the open frames come to with the path that a reading gives, and the text behind it. -/
def onward (outer : List Frame) (frame : Frame) :
    EStateM.Result Query.Error Cursor Path → Except Query.Error Path
  | .ok path left => readBehind outer (frame.withBranch path) left
  | .error e _ => .error e

section

variable {outer : List Frame} {frame : Frame} {cursor : Cursor} {rest : Text}

theorem readPath_paren (hr : cursor.skipped.rest = '(' :: rest) :
    readPath outer frame cursor = readPath (frame :: outer) .empty
      (cursor.skipped.past ['('] rest) := by
  rw [readPath_eq]
  simp only [skipBlanks_eq, hr, if_true]

theorem readPath_point (hr : cursor.skipped.rest = '.' :: rest) :
    readPath outer frame cursor =
      onward outer frame
        ((readFirst >>= fun step => furtherSteps [step]) (cursor.skipped.past ['.'] rest)) := by
  rw [readPath_eq, bind_apply]
  simp only [skipBlanks_eq, hr, if_neg (by decide : ¬ '.' = '('), if_true]
  cases readFirst (cursor.skipped.past ['.'] rest) with
  | error e left => rfl
  | ok step left =>
    change _ = onward outer frame (readSteps [step] left)
    dsimp only
    cases readSteps [step] left <;> rfl

theorem readPath_nil (hr : cursor.skipped.rest = []) :
    readPath outer frame cursor =
      .error (.malformed (.expected '.' none) cursor.skipped.offset) := by
  rw [readPath_eq]
  simp only [skipBlanks_eq, hr]

theorem readPath_cons {c : Char} (hr : cursor.skipped.rest = c :: rest) (hp : c ≠ '(')
    (hd : c ≠ '.') : readPath outer frame cursor =
      .error (.malformed (.expected '.' (some c)) cursor.skipped.offset) := by
  rw [readPath_eq]
  simp only [skipBlanks_eq, hr, if_neg hp, if_neg hd]

theorem readBehind_comma (hr : cursor.skipped.rest = ',' :: rest) :
    readBehind outer frame cursor = readPath outer frame (cursor.skipped.past [','] rest) := by
  rw [readBehind_eq]
  simp only [skipBlanks_eq, hr, if_true]

theorem readBehind_bar (hr : cursor.skipped.rest = '|' :: rest) :
    readBehind outer frame cursor =
      readPath outer frame.withBar (cursor.skipped.past ['|'] rest) := by
  rw [readBehind_eq]
  simp only [skipBlanks_eq, hr, if_neg (by decide : ¬ '|' = ','), if_true]

theorem readBehind_skipped :
    readBehind outer frame cursor.skipped = readBehind outer frame cursor := by
  rw [readBehind_eq, readBehind_eq outer frame cursor, skipBlanks_eq, skipBlanks_eq,
    skipped_skipped]

/-- Where no comma follows, a frame counts by its path, and by its stages in front of a bar. -/
theorem readBehind_congr {frame' : Frame} (h : frame.path = frame'.path)
    (hc : cursor.ahead ≠ some ',') (hb : cursor.ahead = some '|' → frame.withBar = frame'.withBar) :
    readBehind outer frame cursor = readBehind outer frame' cursor := by
  rw [readBehind_eq, readBehind_eq outer frame']
  simp only [skipBlanks_eq]
  unfold Cursor.ahead at hc hb
  cases hr : cursor.skipped.rest with
  | nil => cases outer <;> simp only [h]
  | cons c rest =>
    rw [hr, List.head?_cons, ne_eq, Option.some.injEq] at hc
    rw [hr, List.head?_cons, Option.some.injEq] at hb
    by_cases hbar : c = '|'
    · simp only [if_neg hc, if_pos hbar, hb hbar]
    · simp only [if_neg hc, if_neg hbar, h]

/-- Behind the path in parentheses, the parenthesis that closes them and steps lead on. -/
theorem readBehind_paren {enclosing : Frame} {inner : Path} (h : frame.path = inner)
    (hc : cursor.ahead ≠ some ',') (hb : cursor.ahead ≠ some '|') :
    readBehind (enclosing :: outer) frame cursor =
      onward outer enclosing ((expect ')' >>= fun _ => furtherSteps [inner]) cursor) := by
  have hexpect : expect ')' cursor = expectNext ')' cursor.skipped := rfl
  rw [readBehind_eq, bind_apply, hexpect]
  simp only [skipBlanks_eq, expectNext]
  unfold Cursor.ahead at hc hb
  cases hr : cursor.skipped.rest with
  | nil => rfl
  | cons c rest =>
    rw [hr, List.head?_cons, ne_eq, Option.some.injEq] at hc hb
    simp only [if_neg hc, if_neg hb]
    by_cases hp : c = ')'
    · simp only [if_pos hp, h]
      rw [furtherSteps]
      cases readSteps [inner] (cursor.skipped.past [c] rest) <;> rfl
    · simp only [if_neg hp]
      rfl

end

/-! ### Parts of a path -/

/-- **What a walk over a part of a path does** where fewer than `n` characters are left: in front of
the part, the frames `front` come to what the frames `behind` come to with its path and the text
behind it, or to the error of the walk; and it stops in front of certain characters only. -/
def Passes {ι : Type} (n : Nat) (stops : Option Char → Prop)
    (front : ι → Cursor → Except Query.Error Path)
    (behind : ι → Path → Cursor → Except Query.Error Path) (walk : Walk Path) : Prop :=
  ∀ cursor, cursor.rest.length < n → Walk.Goes cursor walk
    (fun path left => left.rest.length < cursor.rest.length ∧ stops left.ahead ∧
      ∀ i, front i cursor = behind i path left)
    fun e => ∀ i, front i cursor = .error e

/-- **A walk over the items between separators**: the frames behind the items so far (the last one
first) come to what the frames in front of the next item come to behind a separator. -/
structure PassesItems {κ : Type} (n : Nat) (stops : Option Char → Prop) (separator : Char)
    (front behind : κ → List Path → Cursor → Except Query.Error Path) (item : Walk Path) :
    Prop where
  passes : Passes n stops (fun i : κ × List Path => front i.1 i.2)
    (fun i path => behind i.1 (path :: i.2)) item
  skipped : ∀ k taken cursor, behind k taken cursor.skipped = behind k taken cursor
  separated : ∀ k path taken cursor rest, cursor.skipped.rest = separator :: rest →
    behind k (path :: taken) cursor = front k (path :: taken) (cursor.skipped.past [separator] rest)

section

variable {κ : Type} {n : Nat} {stops : Option Char → Prop} {separator : Char}
  {front behind : κ → List Path → Cursor → Except Query.Error Path} {item : Walk Path}

/-- Behind further items, the frames come to what they came to in front of them. -/
theorem PassesItems.goes_itemsBehind (h : PassesItems n stops separator front behind item)
    {bound : Nat} {path : Path} {taken : List Path} {cursor : Cursor}
    (hb : cursor.rest.length < bound) (hn : cursor.rest.length < n) (hs : stops cursor.ahead) :
    Walk.Goes cursor (Walk.itemsBehind separator item bound (path :: taken))
      (fun found left => left.rest.length ≤ cursor.rest.length ∧
        (stops left.ahead ∧ left.ahead ≠ some separator) ∧ found ≠ [] ∧
        ∀ k, behind k (path :: taken) cursor = behind k found left)
      fun e => ∀ k, behind k (path :: taken) cursor = .error e := by
  -- on the bound: an item takes at least one character
  induction bound generalizing path taken cursor with
  | zero => cases hb
  | succ bound ih =>
    have hlength := length_skipped cursor
    refine Walk.Goes.skip (.look ?_)
    by_cases hc : cursor.skipped.rest.head? = some separator
    · obtain ⟨rest, hr⟩ := List.head?_eq_some_iff.1 hc
      rw [if_pos hc]
      rw [hr, List.length_cons] at hlength
      have hfront := fun k => h.separated k path taken cursor rest hr
      simp only [hfront]
      refine .pass_bind hr (((h.passes _ (Nat.lt_trans hlength hn)).imp_fails
        fun e he k => he (k, path :: taken)).bind fun next left ⟨hlt, hstop, hnext⟩ => ?_)
      have hlt : left.rest.length < rest.length := hlt
      have hnext := fun k => hnext (k, path :: taken)
      exact ((ih (by omega) (by omega) hstop).imp fun found last ⟨hle, hstops, hne, hlast⟩ =>
        ⟨by omega, hstops, hne, fun k => (hnext k).trans (hlast k)⟩).imp_fails
          fun e he k => (hnext k).trans (he k)
    · rw [if_neg hc]
      refine .pure ⟨hlength, ⟨?_, ?_⟩, by simp, fun k => (h.skipped k _ cursor).symm⟩
      · rwa [ahead_skipped]
      · rwa [ahead_skipped]

/-- Behind all items, the frames come to what they came to in front of the first one. -/
theorem PassesItems.goes_items (h : PassesItems n stops separator front behind item)
    {cursor : Cursor} (hn : cursor.rest.length < n) :
    Walk.Goes cursor (Walk.items separator item)
      (fun found left => left.rest.length < cursor.rest.length ∧
        (stops left.ahead ∧ left.ahead ≠ some separator) ∧ found ≠ [] ∧
        ∀ k, front k [] cursor = behind k found left)
      fun e => ∀ k, front k [] cursor = .error e := by
  refine ((h.passes cursor hn).imp_fails fun e he k => he (k, [])).bind
    fun path left ⟨hlt, hstop, hfirst⟩ => .bounded fun bound hb => ?_
  have hfirst := fun k => hfirst (k, [])
  exact ((h.goes_itemsBehind hb (by omega) hstop).imp fun found last ⟨hle, hstops, hne, hlast⟩ =>
    ⟨by omega, hstops, hne, fun k => (hfirst k).trans (hlast k)⟩).imp_fails
      fun e he k => (hfirst k).trans (he k)

end

/-! ### Branches, stages and parentheses -/

section

variable {n : Nat} {item : Walk Path}

/-- A walk over paths: in front of a path, a frame comes to what the frame with this branch comes to
behind it. -/
def PassesPaths (n : Nat) (item : Walk Path) : Prop :=
  Passes n (fun _ => True) (fun i : List Frame × Frame => readPath i.1 i.2)
    (fun i path => readBehind i.1 (i.2.withBranch path)) item

/-- **Branches** come to a single branch. -/
theorem passes_branches (h : PassesPaths n item) :
    Passes n (· ≠ some ',') (fun i : List Frame × List Path => readPath i.1 ⟨i.2, []⟩)
      (fun i path => readBehind i.1 ⟨i.2, [path]⟩) (Walk.branches item) := by
  have hitems : PassesItems n (fun _ => True) ','
      (fun (k : List Frame × List Path) taken => readPath k.1 ⟨k.2, taken⟩)
      (fun k taken => readBehind k.1 ⟨k.2, taken⟩) item :=
    ⟨fun cursor hn => ((h cursor hn).imp fun path left ⟨hlt, hstop, hi⟩ =>
        ⟨hlt, hstop, fun i => hi (i.1.1, ⟨i.1.2, i.2⟩)⟩).imp_fails fun e he i =>
          he (i.1.1, ⟨i.1.2, i.2⟩),
      fun _ _ _ => readBehind_skipped, fun _ _ _ _ _ hr => readBehind_comma hr⟩
  intro cursor hn
  refine (hitems.goes_items hn).map fun found left ⟨hlt, ⟨_, hc⟩, _, hi⟩ => ⟨hlt, hc, fun i => ?_⟩
  exact (hi i).trans (readBehind_congr rfl hc fun _ => rfl)

/-- The frame behind stages, the last one of which is a branch; the last one comes first. -/
def Frame.ofStages : List Path → Frame
  | [] => .empty
  | last :: earlier => ⟨earlier, [last]⟩

theorem path_ofStages {stages : List Path} (h : stages ≠ []) :
    (Frame.ofStages stages).path = sequence stages.reverse := by
  cases stages with
  | nil => exact absurd rfl h
  | cons last earlier => rfl

/-- **Stages** come to a single branch of an empty frame. -/
theorem passes_stages (h : PassesPaths n item) :
    Passes n (fun next => next ≠ some ',' ∧ next ≠ some '|')
      (fun outer : List Frame => readPath outer .empty)
      (fun outer path => readBehind outer ⟨[], [path]⟩) (Walk.stages item) := by
  have hitems : PassesItems n (· ≠ some ',') '|'
      (fun (outer : List Frame) taken => readPath outer ⟨taken, []⟩)
      (fun outer taken => readBehind outer (.ofStages taken)) (Walk.branches item) :=
    ⟨passes_branches h, fun _ _ _ => readBehind_skipped, fun _ _ _ _ _ hr => readBehind_bar hr⟩
  intro cursor hn
  refine (hitems.goes_items hn).map fun found left ⟨hlt, ⟨hc, hb⟩, hne, hi⟩ =>
    ⟨hlt, ⟨hc, hb⟩, fun outer => ?_⟩
  refine (hi outer).trans (readBehind_congr ?_ hc fun hbar => absurd hbar hb)
  rw [path_ofStages hne]
  rfl

/-- Where a walk gives what leads on behind the start of a path, it is a walk over this path. -/
theorem goes_of_gives {start cursor : Cursor} {walk : Walk Path}
    {result : EStateM.Result Query.Error Cursor Path} (h : Walk.Gives cursor walk result)
    (hlength : ∀ path left, result = .ok path left → left.rest.length < start.rest.length)
    (hread : ∀ outer frame, readPath outer frame start = onward outer frame result) :
    Walk.Goes cursor walk
      (fun path left => left.rest.length < start.rest.length ∧ True ∧
        ∀ i : List Frame × Frame, readPath i.1 i.2 start =
          readBehind i.1 (i.2.withBranch path) left)
      fun e => ∀ i : List Frame × Frame, readPath i.1 i.2 start = .error e := by
  have hpath : ∀ i : List Frame × Frame, readPath i.1 i.2 start = onward i.1 i.2 result := fun i =>
    hread i.1 i.2
  exact (h.imp fun path left hr =>
    ⟨hlength path left hr, trivial, fun i => (hpath i).trans (congrArg _ hr)⟩).imp_fails
      fun e ⟨left, hr⟩ i => (hpath i).trans (congrArg _ hr)

/-- **Paths**, with a bound for the depth of parentheses that exceeds the length of the text. -/
theorem passes_path (depth : Nat) : PassesPaths depth (Walk.path depth) := by
  -- a parenthesis takes a character, so the paths in it need less depth
  induction depth with
  | zero => exact fun _ hn => absurd hn (Nat.not_lt_zero _)
  | succ depth ih =>
    intro start hn
    have hlength := length_skipped start
    refine Walk.Goes.skip ?_
    cases hr : start.skipped.rest with
    | nil => exact .look_nil hr (.fail fun i => readPath_nil hr)
    | cons c rest =>
      rw [hr, List.length_cons] at hlength
      have hrest : rest.length < depth := by omega
      refine .look_cons hr ?_
      by_cases hp : c = '('
      · subst hp
        simp only [if_true]
        refine .pass_bind hr (((passes_stages ih _ hrest).imp_fails fun e he i => ?_).bind
          fun inner left ⟨hlt, ⟨hc, hb⟩, hinner⟩ => ?_)
        · exact (readPath_paren hr).trans (he (i.2 :: i.1))
        · refine goes_of_gives ((Walk.follows_expect ')' left).bind fun _ _ _ =>
            Walk.follows_steps inner _) (fun path last hlast => ?_) fun outer frame => ?_
          · obtain ⟨_, between, he, hs⟩ := bind_eq_ok.1 hlast
            have hlt : left.rest.length < rest.length := hlt
            have := length_expect he
            have := length_readSteps hs
            omega
          · exact (readPath_paren hr).trans
              ((hinner (frame :: outer)).trans (readBehind_paren rfl hc hb))
      · by_cases hd : c = '.'
        · subst hd
          simp only [if_neg hp, if_true]
          refine .pass_bind hr (goes_of_gives
            ((Walk.follows_first _).bind fun step left _ => Walk.follows_steps step left)
            (fun path left hleft => ?_) fun outer frame => readPath_point hr)
          obtain ⟨_, between, hf, hs⟩ := bind_eq_ok.1 hleft
          have hle : between.rest.length ≤ rest.length := length_readFirst hf
          have := length_readSteps hs
          omega
        · simp only [if_neg hp, if_neg hd]
          exact .fail fun i => readPath_cons hr hp hd

end

/-! ### Whole texts -/

theorem goes_whole (text : Text) :
    Walk.Goes ⟨text, 0⟩ Walk.whole (fun path left => left.rest = [] ∧ ofText text = .ok path)
      fun e => ofText text = .error e := by
  have hpaths : PassesPaths (text.length + 1) (Walk.bounded Walk.path) :=
    fun start _ => .bounded fun depth hn => passes_path depth start hn
  refine ((passes_stages hpaths ⟨text, 0⟩ (Nat.lt_succ_self _)).imp_fails fun e he => he []).bind
    fun found left ⟨_, ⟨hc, hb⟩, hi⟩ => Walk.Goes.skip ?_
  have hread : ofText text = readBehind [] ⟨[], [found]⟩ left := hi []
  rw [readBehind_eq] at hread
  simp only [skipBlanks_eq] at hread
  unfold Cursor.ahead at hc hb
  -- neither a comma nor a bar is left, and no parenthesis is open
  cases hr : left.skipped.rest with
  | nil =>
    rw [hr] at hread
    exact .look_nil hr (.pure ⟨hr, hread⟩)
  | cons c rest =>
    rw [hr, List.head?_cons, ne_eq, Option.some.injEq] at hc hb
    simp only [hr, if_neg hc, if_neg hb] at hread
    exact .look_cons hr (.fail hread)

/-- **Readings by position.** The walk over a text from its start gives just what the reading of the
text gives, and gets stuck nowhere. At the end and at each place that it passed, a character of the
text starts or the text ends; an error has the position of the end of the walk; and a path is read
only from the whole text. -/
theorem reading_by_positions (text : Text) :
    ∃ trail, Walk.whole text ⟨0, []⟩ = some (ofText text, trail) ∧
      (∀ position ∈ trail.position :: trail.passed,
        (⟨position⟩ : String.Pos.Raw).IsValid (String.ofList text)) ∧
      (∀ e, ofText text = .error e → ∃ fault, e = .malformed fault trail.position) ∧
      ∀ path, ofText text = .ok path → trail.position = Text.utf8Length text := by
  obtain ⟨trail, left, hs, hends⟩ := goes_whole text text ⟨0, []⟩ (.start text)
  have hvalid : ∀ position ∈ trail.position :: trail.passed,
      (⟨position⟩ : String.Pos.Raw).IsValid (String.ofList text) := fun position hp =>
    Text.isSome_cutAt?_iff.1 (hs.isSome_cutAt? hp)
  obtain ⟨path, hw, hr, ht⟩ | ⟨fault, hw, ht⟩ := hends
  · refine ⟨trail, by rw [ht]; exact hw, hvalid, fun e he => ?_, fun _ _ => ?_⟩
    · rw [ht] at he
      cases he
    · obtain ⟨front, htext, hfront⟩ := hs.exists_front
      rw [hs.position, hfront, htext, hr, List.append_nil]
  · refine ⟨trail, by rw [ht]; exact hw, hvalid, fun e he => ⟨fault, ?_⟩, fun path hp => ?_⟩
    · rw [ht] at he
      cases he
      rw [hs.position]
    · rw [ht] at hp
      cases hp

/-- A letter of two bytes: no position falls inside it. -/
example : Walk.whole ['.', 'é', ' ', ']'] ⟨0, []⟩ =
    some (.error (.malformed (.unexpected ']') 4), ⟨4, [3, 1, 0]⟩) := rfl

end Condition.Path
