import Condition.Lexeme.Source

/-!
# One lexeme of lookahead

A `Lookahead` is a source together with the lexeme that was taken last. That lexeme can be put back
once (`putBack`), and then it is the next one to be taken again. A passage is read as it stands only
while no lexeme waits, and afterwards there is none to put back.

`unread` counts the characters that are still to be delivered, a waiting lexeme included. Taking a
lexeme makes it smaller by the length of that lexeme at least (`unread_take`). `held` counts the
lexeme taken last in any case, and so what may become unread again by putting it back.
-/

namespace Condition

/-- What became of the lexeme taken last. -/
inductive Lookahead.Slot where
  /-- There is none, or a passage was read since. -/
  | empty
  /-- It was delivered. -/
  | delivered (lexeme : Lexeme)
  /-- It was put back and waits. -/
  | waiting (lexeme : Lexeme)
  deriving DecidableEq

/-- A source of lexemes with the lexeme taken last. -/
structure Lookahead where
  source : Source
  slot : Lookahead.Slot
  deriving DecidableEq

/-- A reading of lexemes or tokens: it goes on from what the readings before it left, also after an
error. -/
abbrev Lookahead.Reading := EStateM Lexeme.Error Lookahead

namespace Lookahead

/-- The lookahead at the start of a text. -/
def ofText (text : Text) : Lookahead := ⟨Source.ofText text, .empty⟩

/-- The number of characters still to be delivered. -/
def unread (s : Lookahead) : Nat :=
  s.source.rest.length + match s.slot with
    | .waiting lexeme => lexeme.text.length
    | _ => 0

/-- The number of characters still to be delivered once the lexeme taken last is put back. -/
def held (s : Lookahead) : Nat :=
  s.source.rest.length + match s.slot with
    | .waiting lexeme => lexeme.text.length
    | .delivered lexeme => lexeme.text.length
    | .empty => 0

theorem unread_le_held (s : Lookahead) : s.unread ≤ s.held := by
  unfold unread held
  split <;> simp_all

/-- Runs a reading on the source; the slot keeps its lexeme if that fails. -/
def onSource {α : Type} (read : EStateM Lexeme.Error Source α) (slot : α → Slot) :
    Reading α := fun s =>
  match read s.source with
  | .ok found source => .ok found ⟨source, slot found⟩
  | .error e source => .error e ⟨source, s.slot⟩

/-- Takes the next lexeme. -/
def take : Reading Lexeme := fun s =>
  match s.slot with
  | .waiting lexeme => .ok lexeme ⟨s.source, .delivered lexeme⟩
  | _ => onSource Source.next .delivered s

/-- Puts the lexeme taken last back. -/
def putBack : Reading Unit := fun s =>
  match s.slot with
  | .waiting _ => .error .putBackTwice s
  | .empty => .error .nothingToPutBack s
  | .delivered lexeme => .ok () ⟨s.source, .waiting lexeme⟩

/-- Reads a passage as it stands, if no lexeme waits. -/
def passage (read : EStateM Lexeme.Error Source Text) : Reading Text := fun s =>
  match s.slot with
  | .waiting _ => .error .lexemeWaiting s
  | _ => onSource read (fun _ => .empty) s

/-- Reads up to a closing delimiter. -/
def takeUntil (closing : Char) (what : Passage) (start : Nat) : Reading Text :=
  passage (Source.takeUntil closing what start)

/-- Reads up to the delimiter that closes `depth` levels. -/
def takeBalanced (opening closing : Char) (depth : Nat) (what : Passage) (start : Nat) :
    Reading Text :=
  passage (Source.takeBalanced opening closing depth what start)

/-! ### What a reading leaves -/

theorem bind_eq_ok {α β : Type} {read : Reading α} {next : α → Reading β} {s left : Lookahead}
    {b : β} : (read >>= next) s = .ok b left ↔ ∃ a t, read s = .ok a t ∧ next a t = .ok b left := by
  change EStateM.bind read next s = .ok b left ↔ _
  unfold EStateM.bind
  cases read s with
  | ok a t =>
    simp only [EStateM.Result.ok.injEq]
    exact ⟨fun h => ⟨a, t, ⟨rfl, rfl⟩, h⟩, fun ⟨_, _, ⟨ha, ht⟩, h⟩ => by rw [ha, ht]; exact h⟩
  | error e t => simp

theorem eq_of_onSource_eq_ok {α : Type} {read : EStateM Lexeme.Error Source α} {slot : α → Slot}
    {s left : Lookahead} {found : α} (h : onSource read slot s = .ok found left) :
    ∃ source, read s.source = .ok found source ∧ left = ⟨source, slot found⟩ := by
  unfold onSource at h
  split at h
  · rename_i found' source hr
    simp only [EStateM.Result.ok.injEq] at h
    obtain ⟨rfl, rfl⟩ := h
    exact ⟨source, hr, rfl⟩
  · cases h

theorem take_eq_ok {s left : Lookahead} {lexeme : Lexeme} (h : take s = .ok lexeme left) :
    left.slot = .delivered lexeme ∧
      left.source.rest.length + lexeme.text.length ≤ s.unread := by
  unfold take at h
  split at h
  · rename_i waiting hs
    simp only [EStateM.Result.ok.injEq] at h
    obtain ⟨rfl, rfl⟩ := h
    simp [unread, hs]
  · obtain ⟨source, hn, rfl⟩ := eq_of_onSource_eq_ok h
    exact ⟨rfl, Nat.le_trans (Source.length_next hn) (Nat.le_add_right _ _)⟩

/-- Behind a lexeme, everything unread is in the source. -/
theorem unread_of_delivered {s : Lookahead} {lexeme : Lexeme} (h : s.slot = .delivered lexeme) :
    s.unread = s.source.rest.length := by
  simp [unread, h]

theorem putBack_eq_ok {s left : Lookahead} (h : putBack s = .ok () left) :
    ∃ lexeme, s.slot = .delivered lexeme ∧ left = ⟨s.source, .waiting lexeme⟩ := by
  unfold putBack at h
  split at h
  · cases h
  · cases h
  · rename_i lexeme hs
    simp only [EStateM.Result.ok.injEq, true_and] at h
    exact ⟨lexeme, hs, h.symm⟩

theorem unread_take {s left : Lookahead} {lexeme : Lexeme} (h : take s = .ok lexeme left) :
    left.unread + lexeme.text.length ≤ s.unread := by
  obtain ⟨hd, hle⟩ := take_eq_ok h
  rw [unread_of_delivered hd]
  exact hle

/-- Behind a lexeme, what is held is what was unread in front of it at most. -/
theorem held_take {s left : Lookahead} {lexeme : Lexeme} (h : take s = .ok lexeme left) :
    left.held ≤ s.unread := by
  obtain ⟨hd, hle⟩ := take_eq_ok h
  simpa [held, hd] using hle

theorem held_putBack {s left : Lookahead} (h : putBack s = .ok () left) :
    left.held = s.held ∧ left.unread = s.held := by
  obtain ⟨lexeme, hs, rfl⟩ := putBack_eq_ok h
  simp [held, unread, hs]

theorem held_passage {read : EStateM Lexeme.Error Source Text} {s left : Lookahead} {text : Text}
    (hread : ∀ {source left text}, read source = .ok text left →
      left.rest.length < source.rest.length)
    (h : passage read s = .ok text left) : left.held < s.unread := by
  unfold passage at h
  split at h
  · cases h
  · obtain ⟨source, hn, rfl⟩ := eq_of_onSource_eq_ok h
    exact Nat.lt_of_lt_of_le (hread hn) (Nat.le_add_right _ _)

theorem held_takeUntil {closing : Char} {what : Passage} {start : Nat}
    {s left : Lookahead} {text : Text} (h : takeUntil closing what start s = .ok text left) :
    left.held < s.unread :=
  held_passage Source.length_takeUntil h

theorem held_takeBalanced {opening closing : Char} {depth : Nat} {what : Passage} {start : Nat}
    {s left : Lookahead} {text : Text}
    (h : takeBalanced opening closing depth what start s = .ok text left) :
    left.held < s.unread :=
  held_passage Source.length_takeBalanced h

end Lookahead
end Condition
