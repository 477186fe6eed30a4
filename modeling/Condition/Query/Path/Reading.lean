import Condition.Query.Path.Basic
import Condition.Text.Class

/-!
# Reading paths

A path starts with a point or stands in parentheses, and goes on by steps: a name behind a point, an
index, a quoted name or nothing in brackets, and question marks, each of which makes the step before
it optional. Commas bind tighter than bars.

Parentheses are kept on a list of open frames instead of being read by recursion, so that their
depth is bounded by the length of the text only. Every reading takes at least one character away,
and the place of an error counts the bytes in front of it.
-/

namespace Condition.Path

-- Powers are those of core, whatever other instances are in scope.
attribute [local instance (high)] instPowNat instNatPowNat Int.instNatPow

/-- The text that is still to be read, and the number of bytes in front of it. -/
structure Cursor where
  rest : Text
  offset : Nat
  deriving DecidableEq

/-- The cursor behind a piece of the text. -/
def Cursor.past (cursor : Cursor) (taken rest : Text) : Cursor :=
  ⟨rest, cursor.offset + Text.utf8Length taken⟩

/-- A reading of the text of a query. -/
abbrev Reading := EStateM Query.Error Cursor

/-- Ends a reading with a fault at the place of the cursor. -/
def fail {α : Type} (fault : Query.Fault) : Reading α := fun cursor =>
  .error (.malformed fault cursor.offset) cursor

/-- Takes the blanks at the front. -/
def skipBlanks : Reading Unit := fun cursor =>
  .ok () (cursor.past (cursor.rest.takeWhile Text.isBlank) (cursor.rest.dropWhile Text.isBlank))

/-- Takes a character that has to be the next one. -/
def expectNext (wanted : Char) : Reading Unit := fun cursor =>
  match cursor.rest with
  | [] => fail (.expected wanted none) cursor
  | c :: rest =>
    if c = wanted then .ok () (cursor.past [c] rest) else fail (.expected wanted (some c)) cursor

/-- Takes a character that has to be the next one behind blanks. -/
def expect (wanted : Char) : Reading Unit := do
  skipBlanks
  expectNext wanted

/-! ### Names and indices -/

/-- The character that an escape in a quoted name stands for. -/
def unescaped? (c : Char) : Option Char :=
  if c = 'n' then some '\n'
  else if c = 't' then some '\t'
  else if c = 'r' then some '\r'
  else if c = '"' ∨ c = '\\' ∨ c = '/' then some c
  else none

/-- A result with a character in front of the text that it delivers. -/
def consFound (c : Char) : EStateM.Result Query.Error Cursor Text →
    EStateM.Result Query.Error Cursor Text
  | .ok text cursor => .ok (c :: text) cursor
  | .error e cursor => .error e cursor

/-- The content of a quoted name behind its opening quote, from an offset on. -/
def contentFrom (offset : Nat) : Text → EStateM.Result Query.Error Cursor Text
  | [] => fail .openString ⟨[], offset⟩
  | [c] =>
    if c = '"' then .ok [] ⟨[], offset + c.utf8Size⟩
    else fail .openString ⟨[], offset + c.utf8Size⟩
  | c :: d :: rest =>
    if c = '"' then .ok [] ⟨d :: rest, offset + c.utf8Size⟩
    else if c = '\\' then
      match unescaped? d with
      | some plain => consFound plain (contentFrom (offset + c.utf8Size + d.utf8Size) rest)
      | none => fail (.invalidEscape d) ⟨rest, offset + c.utf8Size + d.utf8Size⟩
    else consFound c (contentFrom (offset + c.utf8Size) (d :: rest))

/-- The content of a quoted name, behind its opening quote. -/
def readContent : Reading Text := fun cursor => contentFrom cursor.offset cursor.rest

/-- A quoted name. -/
def readQuoted : Reading Text := do
  expectNext '"'
  readContent

/-- A name: quoted, or a word. -/
def readName : Reading Text := fun cursor =>
  match cursor.rest with
  | [] => fail (.expectedName none) cursor
  | c :: rest =>
    if c = '"' then readQuoted cursor
    else if Text.startsWord c then
      let word := c :: rest.takeWhile Text.continuesWord
      .ok word (cursor.past word (rest.dropWhile Text.continuesWord))
    else fail (.expectedName (some c)) cursor

/-- The integer that a sign and digits spell, if there are digits and it fits 64 bits. -/
def indexOf? (negative : Bool) (digits : Text) : Option Int :=
  if digits.isEmpty then none
  else
    let size : Int := Text.digitsValue digits
    let place := if negative then -size else size
    if -2 ^ (63 : Nat) ≤ place ∧ place < 2 ^ (63 : Nat) then some place else none

/-- An index: digits, maybe behind a minus sign. -/
def readIndex : Reading Int := fun cursor =>
  let negative := cursor.rest.head? == some '-'
  let body := if negative then cursor.rest.tail else cursor.rest
  let digits := body.takeWhile Char.isDigit
  let text := if negative then '-' :: digits else digits
  let behind := cursor.past text (body.dropWhile Char.isDigit)
  match indexOf? negative digits with
  | some place => .ok place behind
  | none => fail (.invalidIndex text) behind

/-! ### Steps -/

/-- What stands between brackets: nothing, a quoted name or an index. -/
def readInBrackets : Reading Path := fun cursor =>
  match cursor.rest with
  | [] => fail .openBracket cursor
  | c :: _ =>
    if c = ']' then .ok .iterate cursor
    else if c = '"' then (.field <$> readQuoted) cursor
    else if c = '-' ∨ c.isDigit then (.index <$> readIndex) cursor
    else fail (.unexpectedInBrackets c) cursor

/-- A step in brackets. -/
def readBracket : Reading Path := do
  expectNext '['
  skipBlanks
  let step ← readInBrackets
  expect ']'
  return step

/-- The step behind a point: in brackets, or by name. -/
def readDotted : Reading Path := fun cursor =>
  if cursor.rest.head? = some '[' then readBracket cursor else (.field <$> readName) cursor

/-- The first step behind the point that starts a path, which may be missing. -/
def readFirst : Reading Path := fun cursor =>
  match cursor.rest with
  | [] => .ok .identity cursor
  | c :: _ =>
    if c = '[' ∨ c = '"' ∨ Text.startsWord c then readDotted cursor else .ok .identity cursor

/-- The steps with the last one optional; the last one comes first. -/
def markOptional : List Path → List Path
  | [] => []
  | step :: steps => .optional step :: steps

/-- Paths in sequence: one path is itself. -/
def sequence : List Path → Path
  | [path] => path
  | paths => .pipe paths

/-- Paths beside one another: one path is itself. -/
def choice : List Path → Path
  | [path] => path
  | paths => .comma paths

/-! ### What a reading leaves -/

theorem bind_eq_ok {α β : Type} {read : Reading α} {next : α → Reading β} {cursor left : Cursor}
    {b : β} : (read >>= next) cursor = .ok b left ↔
      ∃ a t, read cursor = .ok a t ∧ next a t = .ok b left := by
  change EStateM.bind read next cursor = .ok b left ↔ _
  unfold EStateM.bind
  cases read cursor with
  | ok a t =>
    simp only [EStateM.Result.ok.injEq]
    exact ⟨fun h => ⟨a, t, ⟨rfl, rfl⟩, h⟩, fun ⟨_, _, ⟨ha, ht⟩, h⟩ => by rw [ha, ht]; exact h⟩
  | error e t => simp

theorem map_eq_ok {α β : Type} {read : Reading α} {f : α → β} {cursor left : Cursor} {b : β} :
    (f <$> read) cursor = .ok b left ↔ ∃ a, read cursor = .ok a left ∧ f a = b := by
  change EStateM.map f read cursor = .ok b left ↔ _
  unfold EStateM.map
  cases read cursor with
  | ok a t =>
    simp only [EStateM.Result.ok.injEq]
    exact ⟨fun ⟨ha, ht⟩ => ⟨a, ⟨rfl, ht⟩, ha⟩, fun ⟨_, ⟨ha, ht⟩, hb⟩ => ⟨by rw [ha]; exact hb, ht⟩⟩
  | error e t => simp

theorem length_skipBlanks {cursor left : Cursor} (h : skipBlanks cursor = .ok () left) :
    left.rest.length ≤ cursor.rest.length := by
  simp only [skipBlanks, Cursor.past, EStateM.Result.ok.injEq, true_and] at h
  rw [← h]
  exact (List.dropWhile_sublist Text.isBlank).length_le

theorem length_expectNext {wanted : Char} {cursor left : Cursor}
    (h : expectNext wanted cursor = .ok () left) : left.rest.length < cursor.rest.length := by
  unfold expectNext at h
  split at h
  · cases h
  · rename_i c rest hrest
    split at h
    · simp only [EStateM.Result.ok.injEq, true_and] at h
      rw [← h, hrest]
      simp [Cursor.past]
    · cases h

theorem length_expect {wanted : Char} {cursor left : Cursor}
    (h : expect wanted cursor = .ok () left) : left.rest.length < cursor.rest.length := by
  obtain ⟨_, t, hs, he⟩ := bind_eq_ok.1 h
  exact Nat.lt_of_lt_of_le (length_expectNext he) (length_skipBlanks hs)

theorem consFound_eq_ok {c : Char} {r : EStateM.Result Query.Error Cursor Text} {text : Text}
    {left : Cursor} (h : consFound c r = .ok text left) : ∃ rest, r = .ok rest left := by
  unfold consFound at h
  split at h
  · simp only [EStateM.Result.ok.injEq] at h
    exact ⟨_, by rw [h.2]⟩
  · cases h

theorem length_contentFrom {offset : Nat} {text found : Text} {left : Cursor}
    (h : contentFrom offset text = .ok found left) : left.rest.length ≤ text.length := by
  fun_induction contentFrom offset text generalizing found with
  | case1 => cases h
  | case2 =>
    simp only [EStateM.Result.ok.injEq] at h
    simp [← h.2]
  | case3 => cases h
  | case4 =>
    simp only [EStateM.Result.ok.injEq] at h
    simp [← h.2]
  | case5 offset d rest hq plain hp ih =>
    obtain ⟨_, hr⟩ := consFound_eq_ok h
    have := ih hr
    simp only [List.length_cons]
    omega
  | case6 => cases h
  | case7 offset c d rest hq hb ih =>
    obtain ⟨_, hr⟩ := consFound_eq_ok h
    have := ih hr
    simp only [List.length_cons] at this ⊢
    omega

theorem length_readQuoted {cursor left : Cursor} {text : Text}
    (h : readQuoted cursor = .ok text left) : left.rest.length < cursor.rest.length := by
  obtain ⟨_, t, he, hc⟩ := bind_eq_ok.1 h
  exact Nat.lt_of_le_of_lt (length_contentFrom hc) (length_expectNext he)

theorem length_readName {cursor left : Cursor} {text : Text}
    (h : readName cursor = .ok text left) : left.rest.length < cursor.rest.length := by
  unfold readName at h
  split at h
  · cases h
  · rename_i c rest hrest
    split at h
    · exact length_readQuoted h
    · split at h
      · simp only [EStateM.Result.ok.injEq] at h
        rw [← h.2, hrest]
        exact Nat.lt_succ_of_le (List.dropWhile_sublist Text.continuesWord).length_le
      · cases h

theorem length_readIndex {cursor left : Cursor} {place : Int}
    (h : readIndex cursor = .ok place left) : left.rest.length ≤ cursor.rest.length := by
  unfold readIndex at h
  dsimp only at h
  split at h
  · simp only [EStateM.Result.ok.injEq] at h
    rw [← h.2]
    refine Nat.le_trans (List.dropWhile_sublist Char.isDigit).length_le ?_
    split <;> simp
  · cases h

theorem length_readInBrackets {cursor left : Cursor} {step : Path}
    (h : readInBrackets cursor = .ok step left) : left.rest.length ≤ cursor.rest.length := by
  unfold readInBrackets at h
  split at h
  · cases h
  · split at h
    · simp only [EStateM.Result.ok.injEq] at h
      exact Nat.le_of_eq (by rw [h.2])
    · split at h
      · obtain ⟨_, hq, -⟩ := map_eq_ok.1 h
        exact Nat.le_of_lt (length_readQuoted hq)
      · split at h
        · obtain ⟨_, hi, -⟩ := map_eq_ok.1 h
          exact length_readIndex hi
        · cases h

theorem length_readBracket {cursor left : Cursor} {step : Path}
    (h : readBracket cursor = .ok step left) : left.rest.length < cursor.rest.length := by
  obtain ⟨_, t₁, h₁, h⟩ := bind_eq_ok.1 h
  obtain ⟨_, t₂, h₂, h⟩ := bind_eq_ok.1 h
  obtain ⟨found, t₃, h₃, h⟩ := bind_eq_ok.1 h
  obtain ⟨_, t₄, h₄, h⟩ := bind_eq_ok.1 h
  change EStateM.Result.ok found t₄ = .ok step left at h
  simp only [EStateM.Result.ok.injEq] at h
  have := length_expectNext h₁
  have := length_skipBlanks h₂
  have := length_readInBrackets h₃
  have := length_expect h₄
  rw [← h.2]
  omega

theorem length_readDotted {cursor left : Cursor} {step : Path}
    (h : readDotted cursor = .ok step left) : left.rest.length < cursor.rest.length := by
  unfold readDotted at h
  split at h
  · exact length_readBracket h
  · obtain ⟨_, hn, -⟩ := map_eq_ok.1 h
    exact length_readName hn

theorem length_readFirst {cursor left : Cursor} {step : Path}
    (h : readFirst cursor = .ok step left) : left.rest.length ≤ cursor.rest.length := by
  unfold readFirst at h
  split at h
  · simp only [EStateM.Result.ok.injEq] at h
    exact Nat.le_of_eq (by rw [h.2])
  · split at h
    · exact Nat.le_of_lt (length_readDotted h)
    · simp only [EStateM.Result.ok.injEq] at h
      exact Nat.le_of_eq (by rw [h.2])

/-! ### Paths -/

/-- The further steps of a path, behind the steps taken so far (the last one first). -/
def readSteps (steps : List Path) (cursor : Cursor) : EStateM.Result Query.Error Cursor Path :=
  match _hr : cursor.rest with
  | [] => .ok (sequence steps.reverse) cursor
  | c :: rest =>
    if _hc : c = '[' then
      match _h : readBracket cursor with
      | .ok step behind => readSteps (step :: steps) behind
      | .error e behind => .error e behind
    else if c = '?' then readSteps (markOptional steps) (cursor.past [c] rest)
    else if c = '.' then
      match _h : readDotted (cursor.past [c] rest) with
      | .ok step behind => readSteps (step :: steps) behind
      | .error e behind => .error e behind
    else .ok (sequence steps.reverse) cursor
termination_by cursor.rest.length
decreasing_by
  · exact length_readBracket _h
  · simp [Cursor.past, _hr]
  · have := length_readDotted _h
    simp only [Cursor.past] at this
    simp only [_hr, List.length_cons]
    omega

theorem length_readSteps {steps : List Path} {cursor left : Cursor} {path : Path}
    (h : readSteps steps cursor = .ok path left) : left.rest.length ≤ cursor.rest.length := by
  fun_induction readSteps steps cursor with
  | case1 =>
    simp only [EStateM.Result.ok.injEq] at h
    exact Nat.le_of_eq (by rw [h.2])
  | case2 steps cursor rest step behind hb hr ih =>
    exact Nat.le_trans (ih h) (Nat.le_of_lt (length_readBracket hb))
  | case3 => cases h
  | case4 steps cursor rest hr hc ih =>
    refine Nat.le_trans (ih h) ?_
    simp [Cursor.past, hr]
  | case5 steps cursor rest step behind hr hc hq hb ih =>
    have := length_readDotted hb
    simp only [Cursor.past] at this
    refine Nat.le_trans (ih h) ?_
    simp only [hr, List.length_cons]
    omega
  | case6 => cases h
  | case7 =>
    simp only [EStateM.Result.ok.injEq] at h
    exact Nat.le_of_eq (by rw [h.2])

/-- What was read since a parenthesis opened: the stages in front of the last bar, and the branches
behind it; the last one comes first in both. -/
structure Frame where
  stages : List Path
  branches : List Path

/-- A frame in which nothing was read. -/
def Frame.empty : Frame := ⟨[], []⟩

/-- The frame behind a branch. -/
def Frame.withBranch (frame : Frame) (path : Path) : Frame :=
  { frame with branches := path :: frame.branches }

/-- The frame behind a bar. -/
def Frame.withBar (frame : Frame) : Frame := ⟨choice frame.branches.reverse :: frame.stages, []⟩

/-- The path that a frame holds. -/
def Frame.path (frame : Frame) : Path := sequence frame.withBar.stages.reverse

mutual

/-- Reads a path inside the open frames, and what follows it. -/
def readPath (outer : List Frame) (frame : Frame) (cursor : Cursor) : Except Query.Error Path :=
  match _hs : skipBlanks cursor with
  | .error e _ => .error e
  | .ok () start =>
    match _hr : start.rest with
    | [] => .error (.malformed (.expected '.' none) start.offset)
    | c :: rest =>
      if c = '(' then readPath (frame :: outer) .empty (start.past [c] rest)
      else if c = '.' then
        match _hf : readFirst (start.past [c] rest) with
        | .error e _ => .error e
        | .ok step behind =>
          match _hp : readSteps [step] behind with
          | .error e _ => .error e
          | .ok path left => readBehind outer (frame.withBranch path) left
      else .error (.malformed (.expected '.' (some c)) start.offset)
termination_by cursor.rest.length
decreasing_by
  · have := length_skipBlanks _hs
    simp only [_hr, List.length_cons] at this
    simp only [Cursor.past]
    omega
  · have := length_skipBlanks _hs
    have := length_readFirst _hf
    have := length_readSteps _hp
    simp only [_hr, List.length_cons, Cursor.past] at *
    omega

/-- Reads what follows a path: a comma or a bar and the next path, a closing parenthesis and the
steps from there, or the end. -/
def readBehind (outer : List Frame) (frame : Frame) (cursor : Cursor) : Except Query.Error Path :=
  match _hs : skipBlanks cursor with
  | .error e _ => .error e
  | .ok () start =>
    match _hr : start.rest, outer with
    | [], [] => .ok frame.path
    | [], _ :: _ => .error (.malformed (.expected ')' none) start.offset)
    | c :: rest, outer =>
      if c = ',' then readPath outer frame (start.past [c] rest)
      else if c = '|' then readPath outer frame.withBar (start.past [c] rest)
      else
        match outer with
        | [] => .error (.malformed (.unexpected c) start.offset)
        | enclosing :: outer =>
          if c = ')' then
            match _hp : readSteps [frame.path] (start.past [c] rest) with
            | .error e _ => .error e
            | .ok path left => readBehind outer (enclosing.withBranch path) left
          else .error (.malformed (.expected ')' (some c)) start.offset)
termination_by cursor.rest.length
decreasing_by
  · have := length_skipBlanks _hs
    simp only [_hr, List.length_cons] at this
    simp only [Cursor.past]
    omega
  · have := length_skipBlanks _hs
    simp only [_hr, List.length_cons] at this
    simp only [Cursor.past]
    omega
  · have := length_skipBlanks _hs
    have := length_readSteps _hp
    simp only [_hr, List.length_cons, Cursor.past] at *
    omega

end

/-- The path that a text spells. -/
def ofText (text : Text) : Except Query.Error Path := readPath [] .empty ⟨text, 0⟩

end Condition.Path
