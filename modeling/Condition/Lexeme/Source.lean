import Condition.Lexeme.Basic
import Condition.Numeral
import Condition.Text.Class

/-!
# Sources of lexemes

A source is the text that is still to be read, with the place where it begins. `Source.next` takes a
lexeme, `Source.takeUntil` and `Source.takeBalanced` take a passage as it stands. Each reading says
what is left also where it fails: an open quote or passage takes the whole rest with it.

A backslash in a quoted string takes the character behind it along, whatever that is; quotes and
backslashes stay in the text of the lexeme.
-/

namespace Condition

/-- Text that is still to be read, from a place on. -/
structure Source where
  rest : Text
  position : Nat
  deriving DecidableEq

namespace Source

/-- The source of a whole text. -/
def ofText (text : Text) : Source := ⟨text, 0⟩

/-- The source behind a piece that was taken from it. -/
def past (source : Source) (taken rest : Text) : Source := ⟨rest, source.position + taken.length⟩

/-- The end of a source. -/
def atEnd (source : Source) : Source := source.past source.rest []

/-- The source without the blanks at its front. -/
def skipBlanks (source : Source) : Source :=
  source.past (source.rest.takeWhile Text.isBlank) (source.rest.dropWhile Text.isBlank)

theorem length_skipBlanks_le (source : Source) :
    source.skipBlanks.rest.length ≤ source.rest.length :=
  (List.dropWhile_sublist Text.isBlank).length_le

/-! ### Quoted strings -/

/-- The text behind an opening quote up to the closing one, which it includes, and what follows. -/
def closeQuote (quote : Char) : Text → Option (Text × Text)
  | [] => none
  | [c] => if c = quote then some ([c], []) else none
  | c :: d :: rest =>
    if c = quote then some ([c], d :: rest)
    else if c = '\\' then (closeQuote quote rest).map fun found => (c :: d :: found.1, found.2)
    else (closeQuote quote (d :: rest)).map fun found => (c :: found.1, found.2)

theorem closeQuote_spelling {quote : Char} {text body rest : Text}
    (h : closeQuote quote text = some (body, rest)) : body ++ rest = text ∧ body ≠ [] := by
  fun_induction closeQuote quote text generalizing body with
  | case1 => cases h
  | case2 =>
    simp only [Option.some.injEq, Prod.mk.injEq] at h
    simp [← h.1, ← h.2]
  | case3 => cases h
  | case4 =>
    simp only [Option.some.injEq, Prod.mk.injEq] at h
    simp [← h.1, ← h.2]
  | case5 d text hq ih =>
    obtain ⟨found, hf, he⟩ := Option.map_eq_some_iff.1 h
    simp only [Prod.mk.injEq] at he
    obtain ⟨rfl, rfl⟩ := he
    simp [(ih hf).1]
  | case6 c d text hq hb ih =>
    obtain ⟨found, hf, he⟩ := Option.map_eq_some_iff.1 h
    simp only [Prod.mk.injEq] at he
    obtain ⟨rfl, rfl⟩ := he
    simp [(ih hf).1]

theorem closeQuote_shortens {quote : Char} {text body rest : Text}
    (h : closeQuote quote text = some (body, rest)) : rest.length < text.length := by
  obtain ⟨rfl, hne⟩ := closeQuote_spelling h
  have := List.length_pos_iff.2 hne
  simp only [List.length_append]
  omega

/-! ### Lexemes -/

theorem read_spelling_ne_nil {c : Char} {rest : Text} (h : c.isDigit = true) :
    (Numeral.read (c :: rest)).1.spelling ≠ [] := by
  simp [Numeral.read, Numeral.spelling, h]

/-- The lexeme at the front of a source, behind blanks. -/
def next : EStateM Lexeme.Error Source Lexeme := fun source =>
  let source := source.skipBlanks
  match source.rest with
  | [] => .ok ⟨.endOfText, [], source.position, fun h => absurd rfl h⟩ source
  | c :: rest =>
    if c = '"' ∨ c = '\'' then
      match closeQuote c rest with
      | some (body, behind) =>
        .ok ⟨.quoted, c :: body, source.position, fun _ => List.cons_ne_nil c body⟩
          (source.past (c :: body) behind)
      | none => .error (.unterminated .stringLiteral source.position) source.atEnd
    else if h : c.isDigit = true then
      let numeral := (Numeral.read (c :: rest)).1
      .ok ⟨if numeral.isWhole then .integer else .decimal, numeral.spelling, source.position,
          fun _ => read_spelling_ne_nil h⟩
        (source.past numeral.spelling (Numeral.read (c :: rest)).2)
    else if Text.startsWord c then
      let word := c :: rest.takeWhile Text.continuesWord
      .ok ⟨.word, word, source.position, fun _ => List.cons_ne_nil _ _⟩
        (source.past word (rest.dropWhile Text.continuesWord))
    else
      .ok ⟨.single c, [c], source.position, fun _ => List.cons_ne_nil _ _⟩ (source.past [c] rest)

/-- A lexeme is taken from the source: with what is left it is no longer than the source was. -/
theorem length_next {source left : Source} {lexeme : Lexeme}
    (h : next source = .ok lexeme left) :
    left.rest.length + lexeme.text.length ≤ source.rest.length := by
  have hle := length_skipBlanks_le source
  unfold next at h
  dsimp only at h
  split at h
  · simp only [EStateM.Result.ok.injEq] at h
    obtain ⟨rfl, rfl⟩ := h
    simpa using hle
  · rename_i c rest hrest
    simp only [hrest, List.length_cons] at hle
    split at h
    · split at h
      · rename_i body behind hq
        have hs := congrArg List.length (closeQuote_spelling hq).1
        simp only [EStateM.Result.ok.injEq] at h
        obtain ⟨rfl, rfl⟩ := h
        simp only [List.length_append] at hs
        simp only [past, List.length_cons]
        omega
      · cases h
    · split at h
      · have hs := congrArg List.length (Numeral.read_spelling (c :: rest))
        simp only [EStateM.Result.ok.injEq] at h
        obtain ⟨rfl, rfl⟩ := h
        simp only [List.length_append, List.length_cons] at hs
        simp only [past]
        omega
      · split at h
        · have hs := congrArg List.length
            (List.takeWhile_append_dropWhile (p := Text.continuesWord) (l := rest))
          simp only [EStateM.Result.ok.injEq] at h
          obtain ⟨rfl, rfl⟩ := h
          simp only [List.length_append] at hs
          simp only [past, List.length_cons]
          omega
        · simp only [EStateM.Result.ok.injEq] at h
          obtain ⟨rfl, rfl⟩ := h
          simpa [past] using hle

/-! ### Passages -/

/-- The characters up to a closing delimiter, which is taken and left out. -/
def takeUntil (closing : Char) (passage : Passage) (start : Nat) :
    EStateM Lexeme.Error Source Text := fun source =>
  let body := source.rest.takeWhile (· ≠ closing)
  match source.rest.dropWhile (· ≠ closing) with
  | [] => .error (.unterminated passage start) source.atEnd
  | delimiter :: rest => .ok body (source.past (body ++ [delimiter]) rest)

/-- What keeps a balanced passage open to the end: a quote inside it, at a distance from the start
of the reading, or its own delimiter. -/
inductive Unclosed where
  | quote (offset : Nat)
  | delimiter
  deriving DecidableEq, Repr

/-- The number of open levels behind a character outside quoted strings. -/
def levelsBehind (opening closing : Char) (depth : Nat) (c : Char) : Nat :=
  if c = closing then depth - 1 else if c = opening then depth + 1 else depth

/-- The text up to the delimiter that closes `depth` levels, without that delimiter, and what
follows. Quoted strings are taken whole, so a delimiter in one does not count. -/
def balanced (opening closing : Char) (depth offset : Nat) (text : Text) :
    Except Unclosed (Text × Text) :=
  match text with
  | [] => .error .delimiter
  | c :: rest =>
    if c = '"' ∨ c = '\'' then
      match _h : closeQuote c rest with
      | none => .error (.quote offset)
      | some (body, behind) =>
        (balanced opening closing depth (offset + body.length + 1) behind).map fun found =>
          (c :: (body ++ found.1), found.2)
    else if c = closing ∧ depth ≤ 1 then .ok ([], rest)
    else
      (balanced opening closing (levelsBehind opening closing depth c) (offset + 1) rest).map
        fun found => (c :: found.1, found.2)
termination_by text.length
decreasing_by
  · have := closeQuote_shortens _h
    simp only [List.length_cons]
    omega
  · simp

/-- The characters up to the delimiter that closes `depth` levels, which is taken and left out. -/
def takeBalanced (opening closing : Char) (depth : Nat) (passage : Passage) (start : Nat) :
    EStateM Lexeme.Error Source Text := fun source =>
  match balanced opening closing depth 0 source.rest with
  | .ok (body, rest) => .ok body (source.past (body ++ [closing]) rest)
  | .error .delimiter => .error (.unterminated passage start) source.atEnd
  | .error (.quote offset) =>
    .error (.unterminated .stringLiteral (source.position + offset)) source.atEnd

theorem length_takeUntil {closing : Char} {passage : Passage} {start : Nat}
    {source left : Source} {body : Text}
    (h : takeUntil closing passage start source = .ok body left) :
    left.rest.length < source.rest.length := by
  unfold takeUntil at h
  dsimp only at h
  split at h
  · cases h
  · rename_i delimiter rest hd
    have hle := (List.dropWhile_sublist (· ≠ closing) (l := source.rest)).length_le
    simp only [EStateM.Result.ok.injEq] at h
    obtain ⟨-, rfl⟩ := h
    simp only [hd, List.length_cons] at hle
    simp only [past]
    omega

theorem balanced_shortens {opening closing : Char} {depth offset : Nat} {text body rest : Text}
    (h : balanced opening closing depth offset text = .ok (body, rest)) :
    rest.length < text.length := by
  fun_induction balanced opening closing depth offset text generalizing body with
  | case1 => cases h
  | case2 => cases h
  | case3 depth offset c behind hq inner after hc ih =>
    cases hb : balanced opening closing depth (offset + inner.length + 1) after with
    | error e => simp [hb, Except.map] at h
    | ok found =>
      simp only [hb, Except.map, Except.ok.injEq, Prod.mk.injEq] at h
      have := @ih found.1 (by rw [hb, ← h.2])
      have := closeQuote_shortens hc
      simp only [List.length_cons]
      omega
  | case4 =>
    simp only [Except.ok.injEq, Prod.mk.injEq] at h
    simp [← h.2]
  | case5 depth offset c behind hq hc ih =>
    cases hb : balanced opening closing (levelsBehind opening closing depth c) (offset + 1)
        behind with
    | error e => simp [hb, Except.map] at h
    | ok found =>
      simp only [hb, Except.map, Except.ok.injEq, Prod.mk.injEq] at h
      have := @ih found.1 (by rw [hb, ← h.2])
      simp only [List.length_cons]
      omega

theorem length_takeBalanced {opening closing : Char} {depth : Nat} {passage : Passage} {start : Nat}
    {source left : Source} {body : Text}
    (h : takeBalanced opening closing depth passage start source = .ok body left) :
    left.rest.length < source.rest.length := by
  unfold takeBalanced at h
  split at h
  · rename_i hb
    have := balanced_shortens hb
    simp only [EStateM.Result.ok.injEq] at h
    obtain ⟨-, rfl⟩ := h
    exact this
  · cases h
  · cases h

end Source
end Condition
