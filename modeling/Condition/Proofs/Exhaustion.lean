import Condition.Proofs.Sessions
import Condition.Proofs.Streams

/-! # Texts run out of tokens

Each token other than the end of the input leaves fewer characters to be delivered, also where a
lexeme was put back behind it. So among as many calls for the next token as there are characters,
and one more, there is one that gives the end of the input or an error. The listing of the tokens is
what the calls up to that one give.

* `exists_last`: the call that is the last one, from any lookahead.
* `tokens_run_out`: the calls on a text, and its listing. -/

namespace Condition.Token

/-- A call for the next token, with the lookaheads around it. -/
abbrev NextTurn := Turn Unit Lexeme.Error Lookahead (Token × Nat)

/-- The turns of calls for the next token, one after the other. -/
def nextTurns (s : Lookahead) (calls : Nat) : List NextTurn :=
  session (fun _ => next) s (List.replicate calls ())

/-- Whether an answer is the last one: the end of the input, or an error. -/
def isLast : Except Lexeme.Error (Token × Nat) → Bool
  | .ok (token, _) => token = .endOfInput
  | .error _ => true

/-- The tokens that were given in turns. -/
def tokensOf (turns : List NextTurn) : List Token :=
  turns.filterMap fun turn => turn.answer.toOption.map Prod.fst

/-- The first turn, and the turns from what it leaves. -/
theorem nextTurns_succ {s : Lookahead}
    {outcome : EStateM.Result Lexeme.Error Lookahead (Token × Nat)}
    (h : next s = outcome) (calls : Nat) :
    nextTurns s (calls + 1) =
      ⟨(), s, outcome⟩ :: nextTurns (Turn.after ⟨(), s, outcome⟩) calls := by
  rw [← h]
  rfl

/-- Turns in front of the last one give no end of the input. -/
theorem endOfInput_notMem_tokensOf {turns : List NextTurn}
    (h : ∀ turn ∈ turns, isLast turn.answer = false) : .endOfInput ∉ tokensOf turns := by
  intro hm
  obtain ⟨turn, ht, hfound⟩ := List.mem_filterMap.1 hm
  obtain ⟨⟨token, position⟩, ha, rfl⟩ := Option.map_eq_some_iff.1 hfound
  have hlast := h turn ht
  cases hanswer : turn.answer with
  | error e =>
    rw [hanswer] at ha
    cases ha
  | ok found =>
    rw [hanswer] at ha hlast
    cases ha
    simp [isLast] at hlast

/-- **The last call.** More calls than there are characters to be delivered have one that gives the
end of the input or an error. What is listed from there on are the tokens in front of it, with the
end of the input behind them, or the error. -/
theorem exists_last {s : Lookahead} {calls : Nat} (h : s.unread < calls) :
    ∃ earlier last later, nextTurns s calls = earlier ++ last :: later ∧
      (∀ turn ∈ earlier, isLast turn.answer = false) ∧ isLast last.answer = true ∧
      listFrom s = last.answer.map fun found => tokensOf earlier ++ [found.1] := by
  -- on the calls: each of them that is not the last one leaves less to be delivered
  induction calls generalizing s with
  | zero => exact absurd h (Nat.not_lt_zero _)
  | succ calls ih =>
    cases hn : next s with
    | error e left =>
      refine ⟨[], ⟨(), s, .error e left⟩, nextTurns left calls, ?_, by simp, rfl, ?_⟩
      · exact nextTurns_succ hn calls
      · rw [listFrom_eq, hn]
        rfl
    | ok found left =>
      obtain ⟨token, position⟩ := found
      by_cases he : token = .endOfInput
      · subst he
        refine ⟨[], ⟨(), s, .ok (.endOfInput, position) left⟩, nextTurns left calls,
          ?_, by simp, rfl, ?_⟩
        · exact nextTurns_succ hn calls
        · rw [listFrom_of_endOfInput hn]
          rfl
      · have hless := unread_next_lt hn he
        obtain ⟨earlier, last, later, hturns, hearlier, hlast, hlist⟩ := ih (s := left) (by omega)
        refine ⟨⟨(), s, .ok (token, position) left⟩ :: earlier, last, later, ?_, ?_, hlast, ?_⟩
        · rw [nextTurns_succ hn, List.cons_append, ← hturns]
          rfl
        · exact List.forall_mem_cons.2 ⟨decide_eq_false he, hearlier⟩
        · rw [listFrom_of_next hn he, hlist]
          cases last.answer with
          | error e => rfl
          | ok found => rfl

/-- **A text runs out of tokens.** From every lookahead, a token other than the end of the input
leaves fewer characters to be delivered, with those of a lexeme that waits. So one of the first
calls on a text, no more than it has characters and one, is the last: it gives the end of the input
or an error, and each one before it gives another token. The listing of the text is what these calls
give, and a listing that is no error has the end of the input once, in the last place. -/
theorem tokens_run_out (text : Text) :
    (∀ s left token position, next s = .ok (token, position) left → token ≠ .endOfInput →
      left.unread < s.unread) ∧
    (∃ earlier last later,
      nextTurns (Lookahead.ofText text) (text.length + 1) = earlier ++ last :: later ∧
      (∀ turn ∈ earlier, isLast turn.answer = false) ∧ isLast last.answer = true ∧
      listOf text = last.answer.map fun found => tokensOf earlier ++ [found.1]) ∧
    ∀ tokens, listOf text = .ok tokens →
      ∃ front, tokens = front ++ [.endOfInput] ∧ .endOfInput ∉ front := by
  obtain ⟨earlier, last, later, hturns, hearlier, hlast, hlist⟩ :=
    exists_last (s := Lookahead.ofText text) (Nat.lt_succ_self text.length)
  refine ⟨fun s left token position hn hne => unread_next_lt hn hne,
    ⟨earlier, last, later, hturns, hearlier, hlast, hlist⟩, fun tokens h => ?_⟩
  refine ⟨tokensOf earlier, ?_, endOfInput_notMem_tokensOf hearlier⟩
  cases ha : last.answer with
  | error e =>
    rw [listOf, hlist, ha] at h
    cases h
  | ok found =>
    rw [ha, isLast, decide_eq_true_eq] at hlast
    rw [listOf, hlist, ha] at h
    cases h
    exact congrArg (fun token => tokensOf earlier ++ [token]) hlast

/-- Behind an operator that could have gone on the parenthesis waits and is still to be delivered,
so one character of two is left. Three calls give what is listed. -/
theorem tokens_run_out_behind_greater :
    let s := Lookahead.ofText ">(".toList
    let left : Lookahead := ⟨⟨[], 2⟩, .waiting ⟨.single '(', ['('], 1, nofun⟩⟩
    next s = .ok (.operator .greater, 0) left ∧ (s.unread = 2 ∧ left.unread = 1) ∧
    left.unread < s.unread ∧ listOf ">(".toList =
      .ok [.operator .greater, .leftParen, .endOfInput] ∧
    ∃ front, [.operator .greater, .leftParen, .endOfInput] = front ++ [Token.endOfInput] ∧
      .endOfInput ∉ front := by
  intro s left
  obtain ⟨hless, -, hend⟩ := tokens_run_out ">(".toList
  have hnext : next s = .ok (.operator .greater, 0) left := rfl
  have hlist : listOf ">(".toList = .ok [.operator .greater, .leftParen, .endOfInput] := by
    decide +kernel
  exact ⟨hnext, ⟨rfl, rfl⟩, hless s left _ _ hnext nofun, hlist, hend _ hlist⟩

end Condition.Token
