import Condition.Proofs.ConditionReadings
import Condition.Proofs.Lookaheads
import Condition.Proofs.OpenGroups

/-! # Lexemes are put back in turn

The reading of a token puts a lexeme back only right behind taking it, and reads a passage only
while no lexeme waits (`InTurn`). So whatever was called before, also with an error, neither the
reading of tokens nor the reading of conditions makes a call out of turn, and a token that ends an
expression can be put back.

* `Token.inTurn_next`: the reading of a token, from wherever.
* `Expr.isOutOfTurn_readAll`: calls on one parser.
* `putBack_in_turn`: the calls on a text. -/

namespace Condition

open Lookahead

/-! ### Readings without calls out of turn -/

/-- From certain lookaheads a reading makes no call out of turn. -/
abbrev Lookahead.InTurn {α : Type} (Front : Lookahead → Prop) (read : Lookahead.Reading α) : Prop :=
  ErrorsAre Front (fun e => e.isOutOfTurn = false) read

/-- The lexeme in the slot was delivered, and not put back. -/
def Lookahead.Delivered (s : Lookahead) : Prop := ∃ lexeme, s.slot = .delivered lexeme

/-- Any lookahead. -/
abbrev Lookahead.Anywhere (_ : Lookahead) : Prop := True

theorem Lookahead.inTurn_refuse {α : Type} {Front : Lookahead → Prop} (lexeme : Lexeme) :
    InTurn Front (Token.refuse lexeme : Lookahead.Reading α) :=
  .throw rfl

namespace Lookahead

variable {β : Type} {Front : Lookahead → Prop}

theorem inTurn_take : InTurn Front take := by
  intro s left e _ h
  unfold take at h
  split at h
  · cases h
  · obtain ⟨_, hn, -⟩ := eq_of_onSource_eq_error h
    obtain ⟨_, _, -, -, -, rfl⟩ := Source.exists_quote_of_next hn
    rfl

theorem inTurn_putBack : InTurn Delivered putBack := by
  rintro s left e ⟨lexeme, hs⟩ h
  unfold putBack at h
  rw [hs] at h
  cases h

theorem inTurn_passage {read : EStateM Lexeme.Error Source Text}
    (hr : ∀ {source left e}, read source = .error e left → e.isOutOfTurn = false) :
    InTurn Delivered (passage read) := by
  rintro s left e ⟨lexeme, hs⟩ h
  unfold passage at h
  rw [hs] at h
  obtain ⟨_, h, -⟩ := eq_of_onSource_eq_error h
  exact hr h

theorem inTurn_takeUntil (closing : Char) (what : Passage) (start : Nat) :
    InTurn Delivered (takeUntil closing what start) :=
  inTurn_passage fun h => by
    obtain rfl := Source.eq_unterminated_of_takeUntil h
    rfl

theorem inTurn_takeBalanced (opening closing : Char) (depth : Nat) (what : Passage) (start : Nat) :
    InTurn Delivered (takeBalanced opening closing depth what start) :=
  inTurn_passage fun h => by
    obtain ⟨_, _, rfl⟩ := Source.exists_unterminated_of_takeBalanced h
    rfl

/-- **Behind taking a lexeme** it can be put back, and a passage can be read. -/
theorem inTurn_take_bind {body : Lexeme → Lookahead.Reading β}
    (h : ∀ lexeme, InTurn Delivered (body lexeme)) : InTurn Front (take >>= body) := by
  intro s left e hs hr
  rcases bind_eq_error.1 hr with hr | ⟨lexeme, t, ht, hr⟩
  · exact inTurn_take hs hr
  · exact h lexeme ⟨lexeme, (take_eq_ok ht).1⟩ hr

end Lookahead

/-! ### Tokens -/

namespace Token

variable {Front : Lookahead → Prop}

theorem inTurn_comparison (alone withEqual : Operator) :
    InTurn Front (comparison alone withEqual) :=
  inTurn_take_bind fun _ => .ite (.pure _) (inTurn_putBack.bind fun _ => .pure _)

theorem inTurn_equalOrTilde (withEqual withTilde : Operator) :
    InTurn Front (equalOrTilde withEqual withTilde) :=
  inTurn_take_bind fun _ => .ite (.pure _) (.ite (.pure _) (inTurn_refuse _))

theorem inTurn_negativeNumber : InTurn Front negativeNumber :=
  inTurn_take_bind fun _ => .ite (inTurn_refuse _) (.pure _)

theorem inTurn_queryMode (position : Nat) : InTurn Front (queryMode position) :=
  inTurn_take_bind fun _ => .ite
    (inTurn_take_bind fun _ => .ite (.pure _)
      (inTurn_take_bind fun _ => .ite (.pure _) (.throw rfl)))
    (inTurn_putBack.bind fun _ => .pure _)

theorem inTurn_query (position : Nat) : InTurn Front (query position) :=
  (inTurn_queryMode position).bind fun _ => inTurn_take_bind fun _ => .ite
    ((inTurn_takeBalanced _ _ _ _ _).bind fun _ => .pure _) (.throw rfl)

theorem inTurn_behindDollar (dollar : Lexeme) : InTurn Front (behindDollar dollar) :=
  inTurn_take_bind fun _ => .ite (.pure _) (.ite (inTurn_query _) (.throw rfl))

theorem inTurn_behindNot (word : Lexeme) : InTurn Front (behindNot word) := by
  refine inTurn_take_bind fun _ => ?_
  split
  case h_4 => exact inTurn_putBack.bind fun _ => inTurn_refuse word
  all_goals exact .pure _

theorem inTurn_ofWord (word : Lexeme) : InTurn Front (ofWord word) := by
  unfold ofWord
  split
  case h_8 => exact inTurn_behindNot word
  all_goals exact .pure _

theorem inTurn_arrayRest (taken : Text) (opening : Lexeme) :
    InTurn Front (arrayRest taken opening) :=
  inTurn_take_bind fun _ => .ite (.throw rfl) (.ite (.pure _)
    ((inTurn_takeBalanced _ _ _ _ _).bind fun _ => .pure _))

theorem inTurn_pathFrom (opening : Lexeme) (segments : List Text) :
    InTurn Front (pathFrom opening segments) := by
  intro s left e hs h
  -- the next segments are read from where the last one ends, so nothing may be asked of the start
  clear hs
  fun_induction pathFrom opening segments s with
  | case1 segments s e s₁ ht | case2 segments s next s₁ _ _ e s₂ ht
    | case3 segments s next s₁ _ _ segment s₂ _ _ e s₃ ht =>
    cases h
    exact (inTurn_take : InTurn Anywhere take) trivial ht
  | case4 _ _ _ _ _ _ _ _ _ _ _ _ _ _ ih => exact ih h
  | case5 _ _ _ _ _ _ _ _ _ _ closing | case6 _ _ _ _ _ _ closing =>
    exact (inTurn_refuse closing : InTurn Anywhere (refuse closing)) trivial h
  | case7 segments s next s₁ ht =>
    refine (inTurn_putBack.bind fun _ => ?_) ⟨next, (take_eq_ok ht).1⟩ h
    exact .ite (inTurn_refuse opening) (.pure _)

theorem inTurn_behindBracket (opening : Lexeme) : InTurn Front (behindBracket opening) :=
  inTurn_take_bind fun _ => .ite
    (inTurn_take_bind fun _ => .ite (inTurn_pathFrom _ _) (inTurn_refuse _))
    (.ite
      (inTurn_take_bind fun _ => .ite (inTurn_pathFrom _ _)
        (inTurn_putBack.bind fun _ => inTurn_arrayRest _ _))
      (inTurn_putBack.bind fun _ => inTurn_arrayRest _ _))

/-- **Behind its first lexeme** a token is read without calls out of turn. -/
theorem inTurn_startingWith (first : Lexeme) : InTurn Delivered (startingWith first) := by
  unfold startingWith
  split
  · exact .pure _
  · exact .pure _
  · exact .pure _
  · exact .pure _
  · exact inTurn_ofWord first
  · split
    · exact .pure _
    · exact .pure _
    · exact inTurn_negativeNumber
    · exact inTurn_behindDollar first
    · exact inTurn_equalOrTilde _ _
    · exact inTurn_equalOrTilde _ _
    · exact inTurn_comparison _ _
    · exact inTurn_comparison _ _
    · exact (inTurn_takeUntil _ _ _).bind fun _ => .pure _
    · exact inTurn_behindBracket first
    · exact .pure _

/-- **Wherever a token is read**, that makes no call out of turn. -/
theorem inTurn_next : InTurn Front next :=
  inTurn_take_bind fun first => (inTurn_startingWith first).bind fun _ => .pure _

/-- What can be asked for tokens. -/
inductive Call where
  | next
  | putBack
  deriving DecidableEq

/-- The answer: a token with its place, or nothing when the lexeme taken last is put back. -/
def perform : Call → Reading (Option (Token × Nat))
  | .next => some <$> next
  | .putBack => (fun _ => none) <$> putBack

variable {turn : Turn Call Lexeme.Error Lookahead (Option (Token × Nat))} {s : Lookahead}
  {calls : List Call}

/-- A turn in which a token was taken. -/
theorem next_of_answer (hm : turn ∈ session perform s calls) {found : Token × Nat}
    (ha : turn.answer = .ok (some found)) : next turn.before = .ok found turn.after := by
  have hp : perform turn.call turn.before = .ok (some found) turn.after :=
    (outcome_of_mem_session hm).symm.trans (Turn.outcome_of_answer_ok ha)
  cases hc : turn.call with
  | next =>
    rw [hc] at hp
    obtain ⟨_, hn, he⟩ := map_eq_ok hp
    cases he
    exact hn
  | putBack =>
    rw [hc] at hp
    obtain ⟨_, -, he⟩ := map_eq_ok hp
    cases he

theorem next_of_error (hm : turn ∈ session perform s calls) (hc : turn.call = .next)
    {e : Lexeme.Error} (ha : turn.answer = .error e) : next turn.before = .error e turn.after := by
  have hp : perform turn.call turn.before = .error e turn.after :=
    (outcome_of_mem_session hm).symm.trans (Turn.outcome_of_answer_error ha)
  rw [hc] at hp
  exact map_eq_error hp

end Token

/-! ### Conditions -/

namespace Expr

variable [Pattern.Engine] [Json.Parser] {Q : Type} {settings : Settings Q}

/-- Whatever the tokens, the reading of a condition makes no call out of turn. -/
theorem rules_inTurn : Rules settings Anywhere Anywhere (fun _ => True)
    fun cause => ∀ e, cause = .lex e → e.isOutOfTurn = false where
  lexical := by
    rintro s left e hs hn
    refine ⟨?_, trivial⟩
    rintro _ ⟨rfl⟩
    exact (Token.inTurn_next : InTurn Anywhere Token.next) trivial hn
  behind _ := trivial
  takes _ _ := trivial
  putsBack _ _ _ _ := trivial
  operand _ _ := trivial
  noOperand _ h e he := absurd he (h.ne_lex e)
  group _ := trivial
  insert _ _ _ := trivial
  trailingToken _ _ := nofun
  trailingInput _ := nofun
  missingParen _ := nofun
  tooDeep _ := nofun

/-- **Calls on one parser**, one after the other, make no call out of turn. -/
theorem isOutOfTurn_readAll {entries : List Entry} {s : ReadState} {answer : Answer Q}
    (hm : answer ∈ readAll settings entries s) {failure : ReadFailure Q}
    (hf : answer.result = .error failure) {e : Lexeme.Error} (he : failure.cause = .lex e) :
    e.isOutOfTurn = false :=
  (meets_of_mem_readAll rules_inTurn trivial hm).2 failure hf e he

end Expr

open Token Condition.Expr

/-- **Lexemes are put back in turn.** Whatever calls for tokens were made on a text before, no token
is read with a call out of turn, and one that ends an expression can be put back and is taken again,
with the same lookahead behind it. Calls for conditions on one parser make no call out of turn
either. -/
theorem putBack_in_turn [Pattern.Engine] [Json.Parser] (text : Text) :
    (∀ calls, ∀ turn ∈ session Token.perform (Lookahead.ofText text) calls,
      (turn.call = .next → ∀ e, turn.answer = .error e → e.isOutOfTurn = false) ∧
      ∀ token position, turn.answer = .ok (some (token, position)) → token.endsExpression = true →
        ∃ s, Lookahead.putBack turn.after = .ok () s ∧
          Token.next s = .ok (token, position) turn.after) ∧
    ∀ {Q : Type} (settings : Settings Q) entries answers,
      RunsAll settings entries ⟨ReadState.ofText text, 0⟩ answers →
      ∀ answer ∈ answers, ∀ failure, answer.result = .error failure →
        ∀ e, failure.cause = .lex e → e.isOutOfTurn = false := by
  refine ⟨fun calls turn hm => ⟨fun hc e ha => ?_, fun token position ha he => ?_⟩, ?_⟩
  · exact (inTurn_next : InTurn Anywhere Token.next) trivial (next_of_error hm hc ha)
  · have hn := next_of_answer hm ha
    obtain ⟨s, hs, hnext⟩ := putBack_next hn he
    exact ⟨s, hs, hnext.trans hn⟩
  · intro Q settings entries answers h answer hm failure hf e he
    rw [runsAll_iff.1 h] at hm
    exact isOutOfTurn_readAll hm hf he

/-- Behind an operator that could have gone on a parenthesis waits, so nothing can be put back;
behind the parenthesis it can. -/
theorem putBack_in_turn_behind_greater :
    let turns := session Token.perform (Lookahead.ofText ">(".toList)
      [.next, .putBack, .next, .putBack, .next]
    turns.map (fun turn => turn.answer.toOption) = [some (some (.operator .greater, 0)), none,
      some (some (.leftParen, 1)), some none, some (some (.leftParen, 1))] ∧
    (∀ turn ∈ turns, turn.call = .next → ∀ e, turn.answer = .error e → e.isOutOfTurn = false) ∧
    ∃ s, Lookahead.putBack turns[2].after = .ok () s ∧
      Token.next s = .ok (.leftParen, 1) turns[2].after := by
  intro turns
  obtain ⟨hturns, -⟩ := putBack_in_turn ">(".toList
  have hm : turns[2] ∈ turns := List.getElem_mem _
  exact ⟨by decide +kernel, fun turn hm => (hturns _ turn hm).1,
    (hturns _ _ hm).2 .leftParen 1 rfl rfl⟩

end Condition
