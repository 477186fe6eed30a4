import Condition.Proofs.Readings
import Condition.Proofs.Sessions

/-! # Lookaheads and their sources

A lookahead is asked for lexemes and passages, and to put a lexeme back (`Lookahead.Call`); its
source can be asked for lexemes and passages too (`Source.Call`). What the lookahead asks of its
source it passes on, and all else it knows from the lexeme taken last.

* `IsTurn.source_of_direct?_eq_some`, `IsTurn.source_of_direct?_eq_none`: what a turn asks of the
  source, and what it does to it.
* `IsTurn.held_after`: the lexeme taken last, and where the source stands.
* `lookahead_refines_source`: whole sessions of a lookahead and of its source. -/

namespace Condition

/-! ### Calls -/

/-- Whether a call was made out of turn: there is nothing to put back, or a lexeme waits. -/
def Lexeme.Error.isOutOfTurn : Lexeme.Error → Bool
  | .putBackTwice | .nothingToPutBack | .lexemeWaiting => true
  | _ => false

/-- Whether the text cannot be read on: it has no such lexeme, or something in it stays open. -/
def Lexeme.Error.isOfText : Lexeme.Error → Bool
  | .illegal .. | .unterminated .. => true
  | _ => false

/-- What is answered: a lexeme, the text of a passage, or that a lexeme was put back. -/
inductive Lookahead.Answer where
  | lexeme (lexeme : Lexeme)
  | passage (text : Text)
  | done
  deriving DecidableEq

/-- What can be asked of a source. -/
inductive Source.Call where
  | next
  | takeUntil (closing : Char) (what : Passage) (start : Nat)
  | takeBalanced (opening closing : Char) (depth : Nat) (what : Passage) (start : Nat)
  deriving DecidableEq

/-- What can be asked of a lookahead. -/
inductive Lookahead.Call where
  | read (call : Source.Call)
  | putBack
  deriving DecidableEq

/-- The answer of a source. -/
def Source.perform : Source.Call → EStateM Lexeme.Error Source Lookahead.Answer
  | .next => .lexeme <$> next
  | .takeUntil closing what start => .passage <$> takeUntil closing what start
  | .takeBalanced opening closing depth what start =>
    .passage <$> takeBalanced opening closing depth what start

namespace Lookahead

/-- The answer of a lookahead. -/
def perform : Call → Reading Answer
  | .read .next => .lexeme <$> take
  | .read (.takeUntil closing what start) => .passage <$> takeUntil closing what start
  | .read (.takeBalanced opening closing depth what start) =>
    .passage <$> takeBalanced opening closing depth what start
  | .putBack => (fun _ => .done) <$> putBack

/-- The lexeme that waits, if one does. -/
def Slot.waiting? : Slot → Option Lexeme
  | .waiting lexeme => some lexeme
  | _ => none

/-- What the slot holds behind an answer of the source. -/
def Answer.slot : Answer → Slot
  | .lexeme found => .delivered found
  | _ => .empty

theorem map_onSource {α : Type} (f : α → Answer) (slot : α → Slot)
    (hf : ∀ a, (f a).slot = slot a) (read : EStateM Lexeme.Error Source α) (s : Lookahead) :
    (f <$> onSource read slot : Reading Answer) s = onSource (f <$> read) Answer.slot s := by
  change EStateM.map f (onSource read slot) s = onSource (EStateM.map f read) Answer.slot s
  unfold EStateM.map onSource
  cases hr : read s.source with
  | ok a source => simp only [hr, hf]
  | error e source => simp only [hr]

/-- **While no lexeme waits** a lookahead passes on what is asked of it. -/
theorem perform_read_of_free {s : Lookahead} (h : s.slot.waiting? = none) (call : Source.Call) :
    perform (.read call) s = onSource (Source.perform call) Answer.slot s := by
  obtain ⟨source, slot⟩ := s
  cases slot with
  | waiting lexeme => cases h
  | empty | delivered =>
    cases call with
    | next => exact map_onSource .lexeme .delivered (fun _ => rfl) Source.next _
    | takeUntil closing what start =>
      exact map_onSource .passage (fun _ => .empty) (fun _ => rfl)
        (Source.takeUntil closing what start) _
    | takeBalanced opening closing depth what start =>
      exact map_onSource .passage (fun _ => .empty) (fun _ => rfl)
        (Source.takeBalanced opening closing depth what start) _

/-! ### What a turn can be -/

/-- **What a turn of a lookahead can be**: the source is read, and that succeeds or fails; a lexeme
that waits is taken again; the lexeme taken last is put back; or the call is refused. -/
inductive IsTurn : Turn Call Lexeme.Error Lookahead Answer → Prop where
  | reads {s : Lookahead} {call : Source.Call} {answer : Answer} {left : Source}
    (hs : s.slot.waiting? = none) (h : Source.perform call s.source = .ok answer left) :
    IsTurn ⟨.read call, s, .ok answer ⟨left, answer.slot⟩⟩
  | fails {s : Lookahead} {call : Source.Call} {e : Lexeme.Error} {left : Source}
    (hs : s.slot.waiting? = none) (h : Source.perform call s.source = .error e left) :
    IsTurn ⟨.read call, s, .error e ⟨left, s.slot⟩⟩
  | again {source : Source} {lexeme : Lexeme} : IsTurn
    ⟨.read .next, ⟨source, .waiting lexeme⟩, .ok (.lexeme lexeme) ⟨source, .delivered lexeme⟩⟩
  | putsBack {source : Source} {lexeme : Lexeme} :
    IsTurn ⟨.putBack, ⟨source, .delivered lexeme⟩, .ok .done ⟨source, .waiting lexeme⟩⟩
  | refused {s : Lookahead} {call : Call} {e : Lexeme.Error} (he : e.isOutOfTurn = true)
    (hc : call ≠ .read .next) (hs : ∀ asked, call = .read asked → s.slot.waiting? ≠ none) :
    IsTurn ⟨call, s, .error e s⟩

theorem isTurn_turnOf (s : Lookahead) (call : Call) : IsTurn (turnOf perform s call) := by
  cases call with
  | putBack =>
    obtain ⟨source, slot⟩ := s
    cases slot with
    | empty => exact .refused rfl nofun nofun
    | waiting lexeme => exact .refused rfl nofun nofun
    | delivered lexeme => exact .putsBack
  | read call =>
    cases hs : s.slot.waiting? with
    | none =>
      unfold turnOf
      rw [perform_read_of_free hs]
      unfold onSource
      split
      · exact .reads hs ‹_›
      · exact .fails hs ‹_›
    | some lexeme =>
      obtain ⟨source, slot⟩ := s
      cases slot with
      | empty | delivered => cases hs
      | waiting lexeme =>
        cases call with
        | next => exact .again
        | takeUntil | takeBalanced => exact .refused rfl nofun nofun

theorem isTurn_of_mem_session {s : Lookahead} {calls : List Call}
    {turn : Turn Call Lexeme.Error Lookahead Answer} (h : turn ∈ session perform s calls) :
    IsTurn turn := by
  rw [eq_turnOf_of_mem_session h]
  exact isTurn_turnOf _ _

/-! ### What is asked of the source -/

/-- What a turn asks of the source, with the answer: it does where it reads while no lexeme
waits. -/
def direct? (turn : Turn Call Lexeme.Error Lookahead Answer) :
    Option (Source.Call × Except Lexeme.Error Answer) :=
  match turn.call with
  | .read call => if turn.before.slot.waiting? = none then some (call, turn.answer) else none
  | .putBack => none

variable {turn : Turn Call Lexeme.Error Lookahead Answer}

theorem direct?_of_free {s : Lookahead} (hs : s.slot.waiting? = none) (call : Source.Call)
    (outcome : EStateM.Result Lexeme.Error Lookahead Answer) :
    direct? ⟨.read call, s, outcome⟩ = some (call, Turn.answer ⟨Call.read call, s, outcome⟩) :=
  if_pos hs

theorem direct?_of_waiting {s : Lookahead} (hs : s.slot.waiting? ≠ none) (call : Source.Call)
    (outcome : EStateM.Result Lexeme.Error Lookahead Answer) :
    direct? ⟨.read call, s, outcome⟩ = none :=
  if_neg hs

/-- Where a turn asks nothing of the source it leaves it as it is. -/
theorem IsTurn.source_of_direct?_eq_none (h : IsTurn turn) (hd : direct? turn = none) :
    turn.after.source = turn.before.source := by
  cases h with
  | reads hs | fails hs =>
    rw [direct?_of_free hs] at hd
    cases hd
  | again | putsBack | refused => rfl

/-- Where a turn asks something of the source it answers as the source does. -/
theorem IsTurn.source_of_direct?_eq_some (h : IsTurn turn) {call : Source.Call}
    {answer : Except Lexeme.Error Answer} (hd : direct? turn = some (call, answer)) :
    (turnOf Source.perform turn.before.source call).answer = answer ∧
      (turnOf Source.perform turn.before.source call).after = turn.after.source := by
  cases h with
  | reads hs hr | fails hs hr =>
    rw [direct?_of_free hs] at hd
    cases hd
    simp only [turnOf, Turn.answer, Turn.after, hr, and_self]
  | again | putsBack => cases hd
  | @refused s asked e _ _ hs =>
    cases asked with
    | putBack => cases hd
    | read asked =>
      rw [direct?_of_waiting (hs asked rfl)] at hd
      cases hd

/-- **The source is asked just what is passed on**, and its answers are those of the lookahead. -/
theorem session_direct (s : Lookahead) (calls : List Call) :
    (session Source.perform s.source
        (((session perform s calls).filterMap direct?).map Prod.fst)).map Turn.answer =
      ((session perform s calls).filterMap direct?).map Prod.snd := by
  -- on the calls: a turn that asks nothing leaves the source to the turns behind it
  induction calls generalizing s with
  | nil => rfl
  | cons call calls ih =>
    have hturn := isTurn_turnOf s call
    have ih := ih (turnOf perform s call).after
    rw [session]
    cases hd : direct? (turnOf perform s call) with
    | none =>
      rw [hturn.source_of_direct?_eq_none hd] at ih
      rw [List.filterMap_cons_none hd]
      exact ih
    | some direct =>
      obtain ⟨ha, hs⟩ := hturn.source_of_direct?_eq_some hd
      rw [← hs] at ih
      rw [List.filterMap_cons_some hd]
      exact (congrArg (_ :: ·) ih).trans (congrArg (· :: _) ha)

/-! ### Errors -/

/-- An error of the source is about the text. -/
theorem isOfText_of_perform {source left : Source} {call : Source.Call} {e : Lexeme.Error}
    (h : Source.perform call source = .error e left) : e.isOfText = true := by
  cases call with
  | next =>
    obtain ⟨_, _, -, -, -, rfl⟩ := Source.exists_quote_of_next (map_eq_error h)
    rfl
  | takeUntil closing what start =>
    obtain rfl := Source.eq_unterminated_of_takeUntil (map_eq_error h)
    rfl
  | takeBalanced opening closing depth what start =>
    obtain ⟨_, _, rfl⟩ := Source.exists_unterminated_of_takeBalanced (map_eq_error h)
    rfl

/-- **A call out of turn** leaves the lookahead as it is. -/
theorem IsTurn.after_of_isOutOfTurn (h : IsTurn turn) {e : Lexeme.Error}
    (ha : turn.answer = .error e) (he : e.isOutOfTurn = true) : turn.after = turn.before := by
  cases h with
  | reads | again | putsBack => cases ha
  | fails _ hr =>
    cases ha
    cases e with
    | putBackTwice | nothingToPutBack | lexemeWaiting => cases isOfText_of_perform hr
    | _ => cases he
  | refused => rfl

/-- While the text can be read on, a passage is read of the source just where it is not refused. -/
theorem IsTurn.direct?_isSome (h : IsTurn turn)
    (ht : ∀ e, turn.answer = .error e → e.isOfText = false) {call : Source.Call}
    (hc : turn.call = .read call) (hne : call ≠ .next) :
    (direct? turn).isSome = true ↔ ∃ answer, turn.answer = .ok answer := by
  cases h with
  | reads hs =>
    rw [direct?_of_free hs]
    exact ⟨fun _ => ⟨_, rfl⟩, fun _ => rfl⟩
  | fails _ hr =>
    have := ht _ rfl
    rw [isOfText_of_perform hr] at this
    cases this
  | again =>
    cases hc
    exact absurd rfl hne
  | putsBack => cases hc
  | @refused s asked e _ _ hs =>
    cases hc
    rw [direct?_of_waiting (hs call rfl)]
    exact ⟨nofun, nofun⟩

/-! ### The lexeme taken last -/

/-- The answer when a lexeme was taken last. -/
def lastTaken? (turns : List (Turn Call Lexeme.Error Lookahead Answer)) :
    Option (Except Lexeme.Error Answer) :=
  (turns.filter fun turn => turn.call = .read .next).getLast?.map Turn.answer

theorem lastTaken?_concat_of_eq (turns : List (Turn Call Lexeme.Error Lookahead Answer))
    (h : turn.call = .read .next) : lastTaken? (turns ++ [turn]) = some turn.answer := by
  simp [lastTaken?, h]

theorem lastTaken?_concat_of_ne (turns : List (Turn Call Lexeme.Error Lookahead Answer))
    (h : turn.call ≠ .read .next) : lastTaken? (turns ++ [turn]) = lastTaken? turns := by
  simp [lastTaken?, h]

/-- **The lexeme in the slot** is the one taken last, and the source stands right behind it. -/
def Held (earlier : List (Turn Call Lexeme.Error Lookahead Answer)) (s : Lookahead) : Prop :=
  ∀ lexeme, s.slot.lexeme? = some lexeme → lastTaken? earlier = some (.ok (.lexeme lexeme)) ∧
    s.source.position = lexeme.position + lexeme.text.length

/-- **While the text can be read on** a turn keeps that. -/
theorem IsTurn.held_after (h : IsTurn turn) (ht : ∀ e, turn.answer = .error e → e.isOfText = false)
    {earlier : List (Turn Call Lexeme.Error Lookahead Answer)} (hh : Held earlier turn.before) :
    Held (earlier ++ [turn]) turn.after := by
  intro lexeme hl
  cases h with
  | @reads s call answer left _ hr =>
    cases call with
    | next =>
      obtain ⟨found, hn, rfl⟩ := map_eq_ok hr
      cases hl
      exact ⟨lastTaken?_concat_of_eq _ rfl, (Source.cut_of_next hn).2.2⟩
    | takeUntil | takeBalanced =>
      obtain ⟨_, -, rfl⟩ := map_eq_ok hr
      cases hl
  | fails _ hr =>
    have := ht _ rfl
    rw [isOfText_of_perform hr] at this
    cases this
  | again =>
    obtain ⟨-, hp⟩ := hh lexeme hl
    cases hl
    exact ⟨lastTaken?_concat_of_eq _ rfl, hp⟩
  | putsBack =>
    obtain ⟨hlast, hp⟩ := hh lexeme hl
    exact ⟨(lastTaken?_concat_of_ne _ (by rintro ⟨⟩)).trans hlast, hp⟩
  | refused _ hc =>
    obtain ⟨hlast, hp⟩ := hh lexeme hl
    exact ⟨(lastTaken?_concat_of_ne _ hc).trans hlast, hp⟩

theorem held_of_split {text : Text} {calls : List Call}
    (ht : ∀ turn ∈ session perform (Lookahead.ofText text) calls, ∀ e, turn.answer = .error e →
      e.isOfText = false)
    {earlier later : List (Turn Call Lexeme.Error Lookahead Answer)}
    (h : session perform (Lookahead.ofText text) calls = earlier ++ turn :: later) :
    Held earlier turn.before := by
  have hs : Held [] (Lookahead.ofText text) := by rintro lexeme ⟨⟩
  exact session_induction (fun _ s call ht hs => (isTurn_turnOf s call).held_after ht hs) hs ht h

theorem IsTurn.answer_of_waiting (h : IsTurn turn) {lexeme : Lexeme} (hc : turn.call = .read .next)
    (hl : turn.before.slot = .waiting lexeme) : turn.answer = .ok (.lexeme lexeme) := by
  cases h with
  | reads hs | fails hs =>
    rw [hl] at hs
    cases hs
  | again =>
    cases hl
    rfl
  | putsBack => cases hc
  | refused _ hne => exact absurd hc hne

end Lookahead

open Lookahead

/-- **A lookahead and its source.** What the turns of a lookahead ask of its source, while no lexeme
waits, is answered as by the source alone. A call out of turn leaves the lookahead as it is. While
the text can be read on, the passages that are not refused are those read of the source, a lexeme
that waits has the source right behind it, and taking it again gives what was taken last. -/
theorem lookahead_refines_source (text : Text) (calls : List Lookahead.Call) :
    let turns := session perform (Lookahead.ofText text) calls
    let direct := turns.filterMap direct?
    (session Source.perform (Source.ofText text) (direct.map Prod.fst)).map Turn.answer =
      direct.map Prod.snd ∧
    (∀ turn ∈ turns, ∀ e, turn.answer = .error e → e.isOutOfTurn = true →
      turn.after = turn.before) ∧
    ((∀ turn ∈ turns, ∀ e, turn.answer = .error e → e.isOfText = false) →
      (∀ turn ∈ turns, ∀ call, turn.call = .read call → call ≠ .next →
        ((direct? turn).isSome = true ↔ ∃ answer, turn.answer = .ok answer)) ∧
      (∀ turn ∈ turns, ∀ lexeme, turn.after.slot = .waiting lexeme →
        turn.after.source.position = lexeme.position + lexeme.text.length) ∧
      ∀ earlier turn later, turns = earlier ++ turn :: later → turn.call = .read .next →
        ∀ lexeme, turn.before.slot = .waiting lexeme →
          turn.answer = .ok (.lexeme lexeme) ∧ lastTaken? earlier = some turn.answer) := by
  intro turns direct
  refine ⟨session_direct (Lookahead.ofText text) calls, fun turn hm e ha he => ?_,
    fun ht => ⟨?_, ?_, ?_⟩⟩
  · exact (isTurn_of_mem_session hm).after_of_isOutOfTurn ha he
  · intro turn hm call hc hne
    exact (isTurn_of_mem_session hm).direct?_isSome (ht turn hm) hc hne
  · intro turn hm lexeme hl
    obtain ⟨earlier, later, hsplit⟩ := List.append_of_mem hm
    have hheld := (isTurn_of_mem_session hm).held_after (ht turn hm) (held_of_split ht hsplit)
    exact (hheld lexeme (by rw [hl]; rfl)).2
  · intro earlier turn later hsplit hc lexeme hl
    have hm : turn ∈ turns := by rw [hsplit]; simp
    obtain ⟨hlast, -⟩ := held_of_split ht hsplit lexeme (by rw [hl]; rfl)
    have ha := (isTurn_of_mem_session hm).answer_of_waiting hc hl
    exact ⟨ha, ha ▸ hlast⟩

/-- A word that is put back and taken again, with two calls out of turn in between, and a
passage. -/
theorem lookahead_refines_source_of_word_again :
    let word : Lexeme := ⟨.word, ['a', 'b'], 1, nofun⟩
    let turns := session perform (Lookahead.ofText " ab c/".toList)
      [.read .next, .putBack, .putBack, .read (.takeUntil '/' .pattern 0), .read .next,
        .read (.takeUntil '/' .pattern 0)]
    turns.map (fun turn => turn.answer.toOption) = [some (.lexeme word), some .done, none, none,
      some (.lexeme word), some (.passage [' ', 'c'])] ∧
    (∀ turn ∈ turns, ∀ e, turn.answer = .error e → e.isOfText = false) ∧
    (∀ turn ∈ turns, ∀ lexeme, turn.after.slot = .waiting lexeme →
      turn.after.source.position = lexeme.position + lexeme.text.length) ∧
    ∃ earlier turn later, turns = earlier ++ turn :: later ∧ turn.before.slot = .waiting word ∧
      lastTaken? earlier = some turn.answer := by
  intro word turns
  have hall : turns.all (fun turn => match turn.answer with
      | .error e => !e.isOfText
      | .ok _ => true) = true := by decide +kernel
  have ht : ∀ turn ∈ turns, ∀ e, turn.answer = .error e → e.isOfText = false := by
    intro turn hm e ha
    have := List.all_eq_true.1 hall turn hm
    rw [ha] at this
    simpa using this
  obtain ⟨-, hplace, hagain⟩ := (lookahead_refines_source _ _).2.2 ht
  have hwaits : (turns[4].before.slot = .waiting word) := by decide +kernel
  have hsplit : turns = turns.take 4 ++ turns[4] :: turns.drop 5 := rfl
  exact ⟨by decide +kernel, ht, hplace, _, _, _, hsplit, hwaits,
    (hagain _ _ _ hsplit rfl word hwaits).2⟩

end Condition
