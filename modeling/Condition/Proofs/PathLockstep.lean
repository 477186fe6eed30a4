import Condition.Proofs.Numerals
import Condition.Proofs.PathReadings
import Condition.Proofs.PathWalks

/-! # Walks and readings in lockstep

A walk over a piece of a path (`Walk`) does what the reading of the piece does: from each cursor it
gives the same value and stands at the same cursor behind it, or gives the same error (`Walk.Gives`,
`Walk.Follows`). A loop of a walk ends within its bound, since each turn takes a character.

* `follows_first`, `follows_steps`: the first step of a path, and its further steps. -/

namespace Condition.Path

/-! ### Readings -/

theorem bind_apply {α β : Type} (read : Reading α) (next : α → Reading β) (cursor : Cursor) :
    (read >>= next) cursor =
      match read cursor with
      | .ok a left => next a left
      | .error e left => .error e left := by
  change EStateM.bind read next cursor = _
  unfold EStateM.bind
  cases read cursor <;> rfl

theorem past_past (cursor : Cursor) (taken more between rest : Text) :
    (cursor.past taken between).past more rest = cursor.past (taken ++ more) rest := by
  simp only [Cursor.past, Text.utf8Length_append, Nat.add_assoc]

theorem contentFrom_quote (offset : Nat) (rest : Text) :
    contentFrom offset ('"' :: rest) = .ok [] ⟨rest, offset + '"'.utf8Size⟩ := by
  cases rest <;> rw [contentFrom, if_pos rfl]

/-- A character that neither closes a quoted name nor escapes one stands for itself. -/
theorem contentFrom_cons {c : Char} (hq : c ≠ '"') (hb : c ≠ '\\') (offset : Nat) (rest : Text) :
    contentFrom offset (c :: rest) = consFound c (contentFrom (offset + c.utf8Size) rest) := by
  cases rest with
  | nil => exact if_neg hq
  | cons d rest => rw [contentFrom, if_neg hq, if_neg hb]

/-- The further steps of a path, as a reading. -/
def furtherSteps (taken : List Path) : Reading Path := readSteps taken

theorem furtherSteps_eq (taken : List Path) (cursor : Cursor) :
    furtherSteps taken cursor =
      match cursor.rest with
      | [] => .ok (sequence taken.reverse) cursor
      | c :: rest =>
        if c = '[' then (readBracket >>= fun step => furtherSteps (step :: taken)) cursor
        else if c = '?' then furtherSteps (markOptional taken) (cursor.past [c] rest)
        else if c = '.' then
          (readDotted >>= fun step => furtherSteps (step :: taken)) (cursor.past [c] rest)
        else .ok (sequence taken.reverse) cursor := by
  rw [furtherSteps, readSteps]
  split
  · rename_i hr
    simp only [hr]
  · rename_i c rest hr
    simp only [hr]
    refine if_congr Iff.rfl ?_ (if_congr Iff.rfl rfl (if_congr Iff.rfl ?_ rfl))
    all_goals
      rw [bind_apply]
      split
      · rename_i hb
        simp only [hb]
        rfl
      · rename_i hb
        simp only [hb]

namespace Walk

variable {α β : Type}

/-! ### Walks that do what readings do -/

/-- **A walk gives a result** of a reading from a cursor: the same value at the same cursor, or the
same error. -/
def Gives (cursor : Cursor) (walk : Walk α) (result : EStateM.Result Query.Error Cursor α) : Prop :=
  Goes cursor walk (fun a left => result = .ok a left) fun e => ∃ left, result = .error e left

/-- A walk does what a reading does, from every cursor. -/
def Follows (walk : Walk α) (read : Reading α) : Prop :=
  ∀ cursor, Gives cursor walk (read cursor)

section

variable {cursor : Cursor} {walk : Walk α} {more : α → Walk β} {read : Reading α}
  {next : α → Reading β} {result : EStateM.Result Query.Error Cursor β} {c : Char} {rest : Text}

theorem Gives.ok {a : α} : Gives cursor (pure a) (.ok a cursor) := Goes.pure rfl

theorem Gives.fail {fault : Query.Fault} :
    Gives cursor (Walk.fail fault : Walk α) (Path.fail fault cursor) :=
  Goes.fail ⟨cursor, rfl⟩

theorem Gives.look_nil {more : Option Char → Walk β} (hr : cursor.rest = [])
    (h : Gives cursor (more none) result) : Gives cursor (look >>= more) result :=
  Goes.look_nil hr h

theorem Gives.look_cons {more : Option Char → Walk β} (hr : cursor.rest = c :: rest)
    (h : Gives cursor (more (some c)) result) : Gives cursor (look >>= more) result :=
  Goes.look_cons hr h

theorem Gives.next_nil {more : Option Char → Walk β} (hr : cursor.rest = [])
    (h : Gives cursor (more none) result) : Gives cursor (Walk.next >>= more) result :=
  Goes.next_nil hr h

theorem Gives.next_cons {more : Option Char → Walk β} (hr : cursor.rest = c :: rest)
    (h : Gives (cursor.past [c] rest) (more (some c)) result) :
    Gives cursor (Walk.next >>= more) result :=
  Goes.next_cons hr h

theorem Gives.bind (h : Gives cursor walk (read cursor))
    (hm : ∀ a left, read cursor = .ok a left → Gives left (more a) (next a left)) :
    Gives cursor (walk >>= more) ((read >>= next) cursor) := by
  rw [bind_apply]
  refine Goes.bind (h.imp_fails fun e ⟨left, he⟩ => ⟨left, by rw [he]⟩) fun a left ha => ?_
  rw [ha]
  exact hm a left ha

theorem Gives.map {f : α → β} (h : Gives cursor walk (read cursor)) :
    Gives cursor (f <$> walk) ((f <$> read) cursor) :=
  (h.bind fun _ _ _ => .ok : Gives cursor (walk >>= fun a => pure (f a))
    ((read >>= fun a => pure (f a)) cursor))

theorem Follows.bind (h : Follows walk read) (hm : ∀ a, Follows (more a) (next a)) :
    Follows (walk >>= more) (read >>= next) :=
  fun cursor => (h cursor).bind fun a left _ => hm a left

end

/-! ### The pieces of a path, read and walked over -/

theorem goes_passWhile (p : Char → Bool) {fails : Query.Error → Prop} {bound : Nat}
    {cursor : Cursor} (h : cursor.rest.length < bound) :
    Goes cursor (passWhile p bound) (fun _ left =>
      left = cursor.past (cursor.rest.takeWhile p) (cursor.rest.dropWhile p)) fails := by
  induction bound generalizing cursor with
  | zero => cases h
  | succ bound ih =>
    obtain ⟨rest, offset⟩ := cursor
    cases rest with
    | nil => exact .look_nil rfl (.pure rfl)
    | cons c rest =>
      refine .look_cons rfl ?_
      cases hc : p c with
      | true =>
        simp only [List.takeWhile_cons, List.dropWhile_cons, hc, if_true]
        refine .pass_bind rfl ((ih (Nat.lt_of_succ_lt_succ h)).imp fun _ left hleft => ?_)
        rw [hleft, past_past]
        rfl
      | false =>
        simp only [List.takeWhile_cons, List.dropWhile_cons, hc, Bool.false_eq_true, if_false]
        exact .pure rfl

/-- A loop over the characters of a class takes just those. -/
theorem goes_class (p : Char → Bool) {fails : Query.Error → Prop} (cursor : Cursor) :
    Goes cursor (bounded (passWhile p)) (fun _ left =>
      left = cursor.past (cursor.rest.takeWhile p) (cursor.rest.dropWhile p)) fails :=
  .bounded fun _ => goes_passWhile p

theorem follows_skipBlanks : Follows skipBlanks Path.skipBlanks := by
  intro cursor
  refine (goes_class Text.isBlank cursor).imp fun _ left hleft => ?_
  rw [hleft]
  rfl

theorem follows_expectNext (wanted : Char) :
    Follows (expectNext wanted) (Path.expectNext wanted) := by
  intro cursor
  unfold Path.expectNext
  cases hr : cursor.rest with
  | nil => exact .look_nil hr .fail
  | cons c rest =>
    refine .look_cons hr ?_
    by_cases hc : c = wanted
    · simp only [if_pos hc]
      exact (Goes.pass hr).imp fun _ left hleft => by rw [hleft]
    · simp only [if_neg hc]
      exact .fail

theorem follows_expect (wanted : Char) : Follows (expect wanted) (Path.expect wanted) :=
  follows_skipBlanks.bind fun _ => follows_expectNext wanted

theorem gives_consFound {cursor : Cursor} {walk : Walk Text} {c : Char}
    {result : EStateM.Result Query.Error Cursor Text} (h : Gives cursor walk result) :
    Gives cursor (List.cons c <$> walk) (consFound c result) :=
  (h.imp_fails fun e ⟨left, he⟩ => ⟨left, by rw [he]; rfl⟩).map
    fun _ _ ha => by rw [ha]; rfl

theorem gives_content {bound : Nat} {cursor : Cursor} (h : cursor.rest.length < bound) :
    Gives cursor (content bound) (readContent cursor) := by
  -- on the bound: each turn takes a character, or two behind a backslash
  induction bound generalizing cursor with
  | zero => cases h
  | succ bound ih =>
    obtain ⟨rest, offset⟩ := cursor
    rw [readContent]
    cases rest with
    | nil => exact .next_nil rfl .fail
    | cons c rest =>
      refine .next_cons rfl ?_
      by_cases hq : c = '"'
      · subst hq
        rw [contentFrom_quote]
        exact .ok
      · by_cases hb : c = '\\'
        · subst hb
          cases rest with
          | nil => exact .next_nil rfl .fail
          | cons d rest =>
            refine .next_cons rfl ?_
            rw [contentFrom, if_neg hq, if_pos rfl]
            have h : rest.length + 2 < bound + 1 := h
            have hrest : rest.length < bound := by omega
            cases hd : unescaped? d with
            | none =>
              simp only [hd]
              exact .fail
            | some plain =>
              simp only [hd]
              exact gives_consFound (ih hrest)
        · simp only [if_neg hq, if_neg hb]
          rw [contentFrom_cons hq hb]
          exact gives_consFound (ih (Nat.lt_of_succ_lt_succ h))

theorem follows_quoted : Follows quoted readQuoted :=
  (follows_expectNext '"').bind fun _ _ => .bounded fun _ => gives_content

theorem follows_name : Follows name readName := by
  intro cursor
  unfold readName
  cases hr : cursor.rest with
  | nil =>
    refine .look_nil hr ?_
    rw [if_neg (by simp)]
    exact .spelled (.look_nil hr (.fail ⟨cursor, rfl⟩))
  | cons c rest =>
    refine .look_cons hr ?_
    by_cases hq : c = '"'
    · subst hq
      simp only [if_true]
      exact follows_quoted cursor
    · rw [if_neg (by simpa using hq)]
      simp only [if_neg hq]
      by_cases hw : Text.startsWord c
      · simp only [if_pos hw]
        refine .spelled (.look_cons hr ?_)
        simp only [if_pos hw]
        refine .pass_bind hr ((goes_class Text.continuesWord _).imp fun _ left hleft => ?_)
        refine ⟨c :: rest.takeWhile Text.continuesWord, rest.dropWhile Text.continuesWord,
          ?_, ?_, ?_⟩
        · rw [hr, List.cons_append, List.takeWhile_append_dropWhile]
        · rw [hleft, past_past]
          rfl
        · rw [hleft, past_past]
          rfl
      · simp only [if_neg hw]
        refine .spelled (.look_cons hr ?_)
        simp only [if_neg hw]
        exact .fail ⟨cursor, rfl⟩

theorem integer?_digits (text : Text) :
    integer? (text.takeWhile Char.isDigit) = indexOf? false (text.takeWhile Char.isDigit) := by
  unfold integer?
  split
  · rename_i digits h
    have hd : Char.isDigit '-' = true := Text.mem_takeWhile (h ▸ List.mem_cons_self)
    cases hd
  · rfl

/-- What is read as an index at the characters that may be one. -/
def indexResult (text : Text) (left : Cursor) : Option Int → EStateM.Result Query.Error Cursor Int
  | some place => .ok place left
  | none => Path.fail (.invalidIndex text) left

/-- The characters of an index decide what the reading of the index gives. -/
theorem goes_numeral (cursor : Cursor) {fails : Query.Error → Prop} :
    Goes cursor numeral (fun _ left => ∃ text rest, cursor.rest = text ++ rest ∧
      left = cursor.past text rest ∧
      readIndex cursor = indexResult text left (integer? text)) fails := by
  refine .look ?_
  by_cases hm : cursor.rest.head? = some '-'
  · obtain ⟨rest, hr⟩ := List.head?_eq_some_iff.1 hm
    rw [if_pos hm]
    refine .pass_bind hr ((goes_class Char.isDigit _).imp fun _ left hleft => ?_)
    refine ⟨'-' :: rest.takeWhile Char.isDigit, rest.dropWhile Char.isDigit, ?_, ?_, ?_⟩
    · rw [hr, List.cons_append, List.takeWhile_append_dropWhile]
    · rw [hleft, past_past]
      rfl
    · rw [hleft, past_past]
      simp only [readIndex, hr]
      rfl
  · rw [if_neg hm]
    refine (goes_class Char.isDigit _).imp fun _ left hleft => ?_
    refine ⟨_, _, List.takeWhile_append_dropWhile.symm, hleft, ?_⟩
    rw [integer?_digits, hleft]
    simp only [readIndex, beq_eq_false_iff_ne.2 hm, Bool.false_eq_true, if_false]
    rfl

theorem follows_index : Follows index readIndex := by
  intro cursor
  refine Goes.bind (.spelled (goes_numeral cursor)) fun text left h => ?_
  rw [h]
  cases hi : integer? text with
  | none => exact .fail ⟨left, rfl⟩
  | some place => exact .pure rfl

/-! ### Steps -/

theorem follows_inBrackets : Follows inBrackets readInBrackets := by
  intro cursor
  unfold readInBrackets
  cases hr : cursor.rest with
  | nil => exact .look_nil hr .fail
  | cons c rest =>
    refine .look_cons hr ?_
    by_cases hc : c = ']'
    · simp only [if_pos hc]
      exact .ok
    · by_cases hq : c = '"'
      · simp only [if_neg hc, if_pos hq]
        exact (follows_quoted cursor).map
      · by_cases hi : c = '-' ∨ c.isDigit
        · simp only [if_neg hc, if_neg hq, if_pos hi]
          exact (follows_index cursor).map
        · simp only [if_neg hc, if_neg hq, if_neg hi]
          exact .fail

theorem follows_bracket : Follows bracket readBracket :=
  (follows_expectNext '[').bind fun _ => follows_skipBlanks.bind fun _ =>
    follows_inBrackets.bind fun _ => (follows_expect ']').bind fun _ _ => .ok

theorem follows_dotted : Follows dotted readDotted := by
  intro cursor
  refine Goes.look ?_
  unfold readDotted
  by_cases hc : cursor.rest.head? = some '['
  · rw [if_pos hc, if_pos hc]
    exact follows_bracket cursor
  · rw [if_neg hc, if_neg hc]
    exact (follows_name cursor).map

theorem follows_first : Follows first readFirst := by
  intro cursor
  unfold readFirst
  cases hr : cursor.rest with
  | nil => exact .look_nil hr .ok
  | cons c rest =>
    refine .look_cons hr ?_
    by_cases hc : c = '[' ∨ c = '"' ∨ Text.startsWord c
    · simp only [if_pos hc]
      exact follows_dotted cursor
    · simp only [if_neg hc]
      exact .ok

theorem gives_stepsBehind {bound : Nat} {taken : List Path} {cursor : Cursor}
    (h : cursor.rest.length < bound) :
    Gives cursor (stepsBehind bound taken) (furtherSteps taken cursor) := by
  -- on the bound: a step and a question mark take a character
  induction bound generalizing taken cursor with
  | zero => cases h
  | succ bound ih =>
    rw [furtherSteps_eq]
    cases hr : cursor.rest with
    | nil => exact .look_nil hr .ok
    | cons c rest =>
      refine .look_cons hr ?_
      have hrest : rest.length < bound := by
        rw [hr, List.length_cons] at h
        omega
      by_cases hb : c = '['
      · simp only [if_pos hb]
        refine (follows_bracket cursor).bind fun step left hstep => ih ?_
        have := length_readBracket hstep
        omega
      · by_cases hm : c = '?'
        · simp only [if_neg hb, if_pos hm]
          exact Goes.pass_bind hr (ih hrest)
        · by_cases hp : c = '.'
          · simp only [if_neg hb, if_neg hm, if_pos hp]
            refine Goes.pass_bind hr ((follows_dotted _).bind fun step left hstep => ih ?_)
            exact Nat.lt_trans (length_readDotted hstep) hrest
          · simp only [if_neg hb, if_neg hm, if_neg hp]
            exact .ok

theorem follows_steps (step : Path) : Follows (steps step) (furtherSteps [step]) :=
  fun _ => .bounded fun _ => gives_stepsBehind

end Walk

end Condition.Path
