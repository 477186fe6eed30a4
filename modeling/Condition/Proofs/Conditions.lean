import Condition.Proofs.Acceptance
import Condition.Proofs.ConditionReadings

/-! # The texts that are conditions

A text is a condition just if it splits into tokens that the grammar derives. A text that splits
into tokens is never refused for how it is split.

* `neverLexical_condition`: where a text splits into tokens no error is about that.
* `exists_derives_of_ofText`, `exists_ofText_of_derives`: a condition, and the tokens that are
  derived.
* `ofText_eq_ok_iff_derives`: the texts that are conditions. -/

namespace Condition.Expr

open Reading Token

variable [Pattern.Engine] [Json.Parser] {Q : Type} {settings : Settings Q}

/-! ### Errors of a text that splits into tokens -/

/-- The text splits into tokens from a state on. -/
def Splits (s : ReadState) : Prop := ∃ tokens, listFrom s.tokens = .ok tokens

/-- The text does not go on with a token where the error occurred. -/
def IsLexical (failure : ReadFailure Q) : Prop := ∃ error, failure.cause = .lex error

/-- A token that stands for no operand has nothing to do with how the text splits. -/
theorem NoOperand.ne_lex {token : Token} {cause : Expr.Error Q} (h : NoOperand settings token cause)
    (e : Lexeme.Error) : cause ≠ .lex e := by
  rintro rfl
  cases h with
  | array h => rcases ofPayload_eq_error h with h | h | ⟨_, h⟩ <;> cases h

/-- While the text splits into tokens, taking one has no error, and the readings keep it so. -/
theorem rules_splits : Rules settings (fun t => ∃ tokens, listFrom t = .ok tokens) (fun _ => True)
    (fun _ => True) fun cause => ∀ e, cause ≠ .lex e where
  lexical := by
    rintro s left e ⟨tokens, hl⟩ hn
    rw [listFrom_eq, hn] at hl
    cases hl
  behind _ := trivial
  takes := by
    rintro token left ⟨s, position, ⟨tokens, hl⟩, hn⟩ hne
    rw [listFrom_of_next hn hne] at hl
    cases hleft : listFrom left with
    | error e => rw [hleft] at hl; cases hl
    | ok rest => exact ⟨rest, rfl⟩
  putsBack := by
    rintro s t left token position ⟨tokens, hl⟩ hn he hp
    obtain ⟨u, hu, hnext⟩ := putBack_next hn he
    rw [hp] at hu
    cases hu
    exact ⟨tokens, (listFrom_congr hnext).trans hl⟩
  operand _ _ := trivial
  noOperand _ h := h.ne_lex
  group _ := trivial
  insert _ _ _ := trivial
  trailingToken _ _ := nofun
  trailingInput _ := nofun
  missingParen _ := nofun
  tooDeep _ := nofun

/-! ### Conditions -/

/-- A condition is read where an expression stands in front of the end of the input. -/
theorem condition_eq_ok_iff {s : ReadState} {tree : Expr Q} :
    (∃ left, condition settings s = .ok tree left) ↔ ∃ t u, expression settings s = .ok tree t ∧
      Takes t .endOfInput u := by
  constructor
  · rintro ⟨left, h⟩
    obtain ⟨tree', t, he, h⟩ := bind_eq_ok.1 h
    obtain ⟨token, u, hn, h⟩ := bind_eq_ok.1 h
    split at h
    · rename_i ht
      subst ht
      obtain ⟨_, v, -, h⟩ := bind_eq_ok.1 h
      obtain ⟨rfl, -⟩ := pure_eq_ok.1 h
      exact ⟨t, u, he, nextToken_eq_ok_iff.1 hn⟩
    · exact absurd h fail_ne_ok
  · rintro ⟨t, u, he, hn⟩
    refine ⟨{ u with journal := .parsed tree.display :: u.journal }, ?_⟩
    refine bind_eq_ok.2 ⟨tree, t, he, ?_⟩
    exact bind_eq_ok.2 ⟨.endOfInput, u, nextToken_eq_ok_iff.2 hn, rfl⟩

theorem neverLexical_condition {s left : ReadState} {failure : ReadFailure Q} (hs : Splits s)
    (h : condition settings s = .error failure left) : ¬ IsLexical failure :=
  fun ⟨e, hc⟩ => ((meets_condition rules_splits s hs).2 _ _ h).1 e hc

theorem result_ofText_eq_ok_iff {text : Text} {tree : Expr Q} :
    (ofText settings text).result = .ok tree ↔
      ∃ left, condition settings (ReadState.ofText text) = .ok tree left := by
  unfold ofText
  cases condition settings (ReadState.ofText text) with
  | ok tree' left => simp
  | error failure left => simp

theorem result_ofText_eq_error_iff {text : Text} {failure : ReadFailure Q} :
    (ofText settings text).result = .error failure ↔
      ∃ left, condition settings (ReadState.ofText text) = .error failure left := by
  unfold ofText
  cases condition settings (ReadState.ofText text) with
  | ok tree' left => simp
  | error failure left => simp

/-- What is read as a condition is derived in front of the end of the input. -/
theorem exists_derives_of_ofText {text : Text} {tree : Expr Q}
    (h : (ofText settings text).result = .ok tree) :
    ∃ tokens, listOf text = .ok (tokens ++ [.endOfInput]) ∧
      Derives settings .expression tokens ∧ OpenAtMost settings.maxNesting tokens := by
  obtain ⟨t, u, he, hn⟩ := condition_eq_ok_iff.1 (result_ofText_eq_ok_iff.1 h)
  obtain ⟨first, steps, v, hc, hend, -⟩ := readExpression_eq_ok_iff.1 he
  have hr : Reads settings settings.maxNesting .expression _ v := ⟨first, steps, hc⟩
  obtain ⟨tokens, hd, ho, hs⟩ := derives_of_reads hr
  refine ⟨tokens, ?_, hd, ho⟩
  obtain ⟨position, hn, -⟩ := hn
  have hlist := hs.trans hend.delivers
  unfold Delivers at hlist
  rw [listFrom_of_endOfInput hn, List.append_nil] at hlist
  exact hlist

/-- A chain of operators in front of the end of the input is read as a condition. -/
theorem result_ofText_of_readsChain {text : Text} {first : Expr Q} {steps : Steps Q} {t : ReadState}
    (hc : ReadsChain (operandReader settings settings.maxNesting) (ReadState.ofText text)
      first steps t)
    (ht : Streams t.tokens [.endOfInput]) :
    (ofText settings text).result = .ok (insertAll settings.precedence first steps) := by
  obtain ⟨u, he, hu⟩ := endsAt_of_streams ht rfl
  obtain ⟨left, hn, -⟩ := takes_of_streams hu
  have hr : expression settings (ReadState.ofText text) = .ok _ u :=
    readExpression_eq_ok_iff.2 ⟨first, steps, t, hc, he, rfl⟩
  exact result_ofText_eq_ok_iff.2 (condition_eq_ok_iff.2 ⟨u, left, hr, hn⟩)

/-- What is derived in front of the end of the input is read as a condition. -/
theorem exists_ofText_of_derives {text : Text} {tokens : List Token}
    (hl : listOf text = .ok (tokens ++ [.endOfInput])) (hd : Derives settings .expression tokens)
    (ho : OpenAtMost settings.maxNesting tokens) :
    ∃ tree, (ofText settings text).result = .ok tree := by
  have hs : Streams (ReadState.ofText text).tokens (tokens ++ [.endOfInput]) := streams_ofText hl
  obtain ⟨t, ⟨first, steps, hc⟩, ht⟩ := reads_of_derives hd ho hs
  exact ⟨_, result_ofText_of_readsChain hc ht⟩

/-- **The texts that are conditions.** A text is a condition just if it splits into tokens that are
derived, with no more groups open at once than the settings allow, in front of the end of the input.
Where it splits into tokens no error is about that, and where it does not it is no condition. -/
theorem ofText_eq_ok_iff_derives (settings : Settings Q) (text : Text) :
    ((∃ tree, (ofText settings text).result = .ok tree) ↔
      ∃ tokens, listOf text = .ok (tokens ++ [.endOfInput]) ∧
        Derives settings .expression tokens ∧ OpenAtMost settings.maxNesting tokens) ∧
    (∀ tokens failure, listOf text = .ok tokens →
      (ofText settings text).result = .error failure → ¬ IsLexical failure) ∧
    (∀ error, listOf text = .error error →
      ∃ failure, (ofText settings text).result = .error failure) := by
  refine ⟨⟨?_, ?_⟩, ?_, ?_⟩
  · rintro ⟨tree, h⟩
    exact exists_derives_of_ofText h
  · rintro ⟨tokens, hl, hd, ho⟩
    exact exists_ofText_of_derives hl hd ho
  · intro tokens failure hl h
    obtain ⟨left, h⟩ := result_ofText_eq_error_iff.1 h
    have hs : Splits (ReadState.ofText text) := ⟨tokens, hl⟩
    exact neverLexical_condition hs h
  · intro error hl
    cases h : (ofText settings text).result with
    | error failure => exact ⟨failure, rfl⟩
    | ok tree =>
      obtain ⟨tokens, hok, -⟩ := exists_derives_of_ofText h
      rw [hl] at hok
      cases hok

end Condition.Expr
