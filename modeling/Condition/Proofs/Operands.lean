import Condition.Expr.Reading

/-! # Operands

The operand that a token stands for (`IsLeaf`), and what the readings of operands do:

* `readLeaf_eq_ok`, `readLeaf_of_isLeaf`: a token is read as an operand just if it stands for one,
  and no further token is taken.
* `readLeaf_eq_error`: what is wrong with a token that stands for none (`NoOperand`).
* `readOperand_eq_ok`, `readOperand_leaf`, `readOperand_group`: an operand is such a token, or a
  group with an expression in it.
* `isBinary_operandReader`: no operand is an operator with its operands. -/

namespace Condition.Expr

open Reading

variable [Pattern.Engine] {Q : Type} {settings : Settings Q}

/-! ### Errors of a reading -/

theorem bind_eq_error {α β : Type} {read : Reading Q α} {next : α → Reading Q β}
    {s left : ReadState} {failure : ReadFailure Q} : (read >>= next) s = .error failure left ↔
      read s = .error failure left ∨ ∃ a t, read s = .ok a t ∧ next a t = .error failure left := by
  change EStateM.bind read next s = .error failure left ↔ _
  unfold EStateM.bind
  cases read s with
  | ok a t =>
    simp only [reduceCtorEq, EStateM.Result.ok.injEq, false_or]
    exact ⟨fun h => ⟨a, t, ⟨rfl, rfl⟩, h⟩, fun ⟨_, _, ⟨ha, ht⟩, h⟩ => by rw [ha, ht]; exact h⟩
  | error e t => simp

theorem fail_eq_error {α : Type} {cause : Expr.Error Q} {s left : ReadState}
    {failure : ReadFailure Q}
    (h : (fail cause : Reading Q α) s = .error failure left) :
    failure = .ofCause cause ∧ left = s := by
  cases h
  exact ⟨rfl, rfl⟩

theorem pure_ne_error {α : Type} {a : α} {s left : ReadState} {failure : ReadFailure Q} :
    (pure a : Reading Q α) s ≠ .error failure left := by
  intro h
  cases h

/-! ### Taking and putting back tokens -/

/-- Taking a token leads from one state to another. -/
def Takes (s : ReadState) (token : Token) (left : ReadState) : Prop :=
  ∃ position, Token.next s.tokens = .ok (token, position) left.tokens ∧
    left.journal = .token token position :: s.journal

/-- Putting the token taken last back leads from one state to another. -/
def PutsBack (s left : ReadState) : Prop :=
  Lookahead.putBack s.tokens = .ok () left.tokens ∧ left.journal = s.journal

theorem onTokens_eq_ok_iff {α : Type} {read : Lookahead.Reading α} {s left : ReadState} {a : α} :
    (onTokens read : Reading Q α) s = .ok a left ↔
      read s.tokens = .ok a left.tokens ∧ left.journal = s.journal := by
  refine ⟨onTokens_eq_ok, fun ⟨hr, hj⟩ => ?_⟩
  obtain ⟨tokens, journal⟩ := left
  dsimp only at hr hj
  subst hj
  simp only [onTokens, hr]

theorem nextToken_eq_ok_iff {s left : ReadState} {token : Token} :
    (nextToken : Reading Q Token) s = .ok token left ↔ Takes s token left := by
  constructor
  · intro h
    obtain ⟨⟨found, position⟩, t, hn, h⟩ := bind_eq_ok.1 h
    obtain ⟨_, u, hr, h⟩ := bind_eq_ok.1 h
    obtain ⟨rfl, rfl⟩ := pure_eq_ok.1 h
    simp only [record, EStateM.Result.ok.injEq, true_and] at hr
    subst hr
    obtain ⟨hn, hj⟩ := onTokens_eq_ok hn
    exact ⟨position, hn, by simp only [hj]⟩
  · rintro ⟨position, hn, hj⟩
    obtain ⟨tokens, journal⟩ := left
    dsimp only at hn hj
    subst hj
    exact bind_eq_ok.2 ⟨(token, position), ⟨tokens, s.journal⟩, onTokens_eq_ok_iff.2 ⟨hn, rfl⟩, rfl⟩

theorem putBack_eq_ok_iff {s left : ReadState} :
    (putBack : Reading Q Unit) s = .ok () left ↔ PutsBack s left :=
  onTokens_eq_ok_iff

/-- Taking a token fails where the text does not go on with one. -/
theorem nextToken_eq_error {s left : ReadState} {failure : ReadFailure Q}
    (h : (nextToken : Reading Q Token) s = .error failure left) :
    ∃ error, failure = .ofCause (.lex error) ∧ Token.next s.tokens = .error error left.tokens := by
  rcases bind_eq_error.1 h with h | ⟨_, t, -, h⟩
  · unfold onTokens at h
    split at h
    · cases h
    · rename_i error tokens hr
      cases h
      exact ⟨error, rfl, hr⟩
  · rcases bind_eq_error.1 h with h | ⟨_, u, -, h⟩
    · cases h
    · cases h

/-! ### Parts of operands -/

/-- An array literal is a list of strings or of numbers. -/
theorem ofItems_eq_ok {items : List Json} {list : Expr Q} (h : ofItems items = .ok list) :
    (∃ texts, list = .strings texts) ∨ ∃ doubles, list = .numbers doubles := by
  unfold ofItems at h
  split at h
  · cases h
  · exact .inl ⟨_, (Except.ok.inj h).symm⟩
  · exact .inr ⟨_, (Except.ok.inj h).symm⟩
  · cases h

/-- A query is compiled by the engine of the settings. -/
theorem compileQuery_eq_ok {query : Text} {mode : Option Text} {s left : ReadState} {e : Expr Q}
    (h : compileQuery settings query mode s = .ok e left) :
    ∃ engine compiled, settings.engine = some engine ∧ engine query = .ok compiled ∧
      e = .subQuery query (Query.Mode.ofName mode) compiled := by
  unfold compileQuery at h
  cases he : settings.engine with
  | none =>
    simp only [he] at h
    exact absurd h fail_ne_ok
  | some engine =>
    simp only [he] at h
    obtain ⟨_, u, -, h⟩ := bind_eq_ok.1 h
    cases hc : engine query with
    | error error =>
      simp only [hc] at h
      exact absurd h fail_ne_ok
    | ok compiled =>
      simp only [hc] at h
      exact ⟨engine, compiled, rfl, hc, (pure_eq_ok.1 h).1.symm⟩

/-- A query that is not compiled lacks an engine, or has a fault that the engine finds. -/
theorem compileQuery_eq_error {query : Text} {mode : Option Text} {s left : ReadState}
    {failure : ReadFailure Q} (h : compileQuery settings query mode s = .error failure left) :
    (failure.cause = .noQueryEngine query ∨ ∃ e, failure.cause = .subQuery query e) ∧
      left.tokens = s.tokens := by
  unfold compileQuery at h
  cases he : settings.engine with
  | none =>
    simp only [he] at h
    obtain ⟨rfl, rfl⟩ := fail_eq_error h
    exact ⟨.inl rfl, rfl⟩
  | some engine =>
    simp only [he] at h
    rcases bind_eq_error.1 h with h | ⟨_, u, hr, h⟩
    · cases h
    · cases hr
      cases hc : engine query with
      | ok compiled =>
        simp only [hc] at h
        exact absurd h pure_ne_error
      | error e =>
        simp only [hc] at h
        obtain ⟨rfl, rfl⟩ := fail_eq_error h
        exact ⟨.inr ⟨e, rfl⟩, rfl⟩

theorem isBinary_asRightOperand {op : Operator} {e : Expr Q} (h : e.isBinary = false) :
    (asRightOperand op e).isBinary = false := by
  unfold asRightOperand
  split
  · split
    · split <;> rfl
    · rfl
  · exact h

/-! ### Tokens as operands -/

variable [Json.Parser]

/-- The operand that a token stands for. -/
inductive IsLeaf (settings : Settings Q) : Token → Expr Q → Prop where
  | name (text : Text) : IsLeaf settings (.name text) (.name text)
  | string {text content : Text} (h : unwrapped? text = some content) :
    IsLeaf settings (.string text) (.string content)
  | number {text : Text} {d : Double} (h : Double.ofText? text = some d) :
    IsLeaf settings (.number text) (.number d)
  | boolean (b : Bool) : IsLeaf settings (.boolean b) (.boolean b)
  | array {payload : Text} {list : Expr Q} (h : ofPayload payload = .ok list) :
    IsLeaf settings (.array payload) list
  | subQuery {query : Text} {engine : Query.Engine Q} {compiled : Q} (mode : Option Text)
    (he : settings.engine = some engine) (hc : engine query = .ok compiled) :
    IsLeaf settings (.subQuery query mode) (.subQuery query (Query.Mode.ofName mode) compiled)

theorem ofPayload_eq_ok {payload : Text} {list : Expr Q} (h : ofPayload payload = .ok list) :
    ∃ items, Json.read? ('[' :: payload ++ [']']) = some (.array items) ∧
      ofItems items = .ok list := by
  unfold ofPayload at h
  split at h
  · rename_i items hr
    exact ⟨items, hr, h⟩
  · cases h

theorem ofPayload_cases {payload : Text} {list : Expr Q} (h : ofPayload payload = .ok list) :
    (∃ texts, list = .strings texts) ∨ ∃ doubles, list = .numbers doubles := by
  obtain ⟨items, -, hi⟩ := ofPayload_eq_ok h
  exact ofItems_eq_ok hi

theorem IsLeaf.isBinary {token : Token} {e : Expr Q} (h : IsLeaf settings token e) :
    e.isBinary = false := by
  cases h with
  | array h => rcases ofPayload_cases h with ⟨_, rfl⟩ | ⟨_, rfl⟩ <;> rfl
  | _ => rfl

theorem readLeaf_eq_ok {token : Token} {s left : ReadState} {e : Expr Q}
    (h : readLeaf settings token s = .ok e left) : IsLeaf settings token e := by
  cases token with
  | endOfInput => exact absurd h fail_ne_ok
  | leftParen => exact absurd h fail_ne_ok
  | rightParen => exact absurd h fail_ne_ok
  | operator op => exact absurd h fail_ne_ok
  | name text => rw [← (pure_eq_ok.1 h).1]; exact .name text
  | boolean b => rw [← (pure_eq_ok.1 h).1]; exact .boolean b
  | string text =>
    simp only [readLeaf] at h
    cases hu : unwrapped? text <;> simp only [hu] at h
    · exact absurd h fail_ne_ok
    · rw [← (pure_eq_ok.1 h).1]; exact .string hu
  | number text =>
    simp only [readLeaf] at h
    cases hu : Double.ofText? text <;> simp only [hu] at h
    · exact absurd h fail_ne_ok
    · rw [← (pure_eq_ok.1 h).1]; exact .number hu
  | array payload =>
    simp only [readLeaf] at h
    cases hu : (ofPayload payload : Except (Expr.Error Q) (Expr Q)) <;> simp only [hu] at h
    · exact absurd h fail_ne_ok
    · rw [← (pure_eq_ok.1 h).1]; exact .array hu
  | subQuery query mode =>
    obtain ⟨engine, compiled, he, hc, rfl⟩ := compileQuery_eq_ok h
    exact .subQuery mode he hc

/-- What happens when a token is read as an operand: a query is compiled. -/
def leafEvents : Token → List Event
  | .subQuery query _ => [.compiling query]
  | _ => []

/-- A token that stands for an operand is read as one. -/
theorem readLeaf_of_isLeaf {token : Token} {e : Expr Q} (h : IsLeaf settings token e)
    (s : ReadState) : readLeaf settings token s =
      .ok e { s with journal := leafEvents token ++ s.journal } := by
  cases h with
  | name text => rfl
  | boolean b => rfl
  | string h | number h | array h =>
    simp only [readLeaf, h]
    rfl
  | subQuery mode he hc =>
    simp only [readLeaf, compileQuery, he]
    exact bind_eq_ok.2 ⟨(), _, rfl, by simp only [hc]; rfl⟩

/-! ### Tokens that are none -/

/-- **What is wrong with a token** that stands for no operand. -/
inductive NoOperand (settings : Settings Q) : Token → Expr.Error Q → Prop where
  | unexpected (token : Token) : NoOperand settings token (.unexpectedToken token)
  | string {text : Text} (h : unwrapped? text = none) :
    NoOperand settings (.string text) (.invalidString text)
  | number {text : Text} (h : Double.ofText? text = none) :
    NoOperand settings (.number text) (.invalidNumber text)
  | array {payload : Text} {cause : Expr.Error Q} (h : ofPayload payload = .error cause) :
    NoOperand settings (.array payload) cause
  | noEngine (query : Text) (mode : Option Text) :
    NoOperand settings (.subQuery query mode) (.noQueryEngine query)
  | subQuery (query : Text) (mode : Option Text) (e : Query.Error) :
    NoOperand settings (.subQuery query mode) (.subQuery query e)

/-- An array literal is no list, or has no elements, or has a first one of the wrong kind. -/
theorem ofPayload_eq_error {payload : Text} {cause : Expr.Error Q}
    (h : (ofPayload payload : Except (Expr.Error Q) (Expr Q)) = .error cause) :
    cause = .invalidArray payload ∨ cause = .emptyArray ∨
      ∃ found, cause = .unsupportedArray found := by
  unfold ofPayload at h
  split at h
  · unfold ofItems at h
    split at h <;> cases h
    · exact .inr (.inl rfl)
    · exact .inr (.inr ⟨_, rfl⟩)
  · cases h
    exact .inl rfl

/-- **A token that is not read as an operand** has something wrong with it, and no further one is
taken. -/
theorem readLeaf_eq_error {token : Token} {s left : ReadState} {failure : ReadFailure Q}
    (h : readLeaf settings token s = .error failure left) :
    NoOperand settings token failure.cause ∧ left.tokens = s.tokens := by
  cases token with
  | endOfInput | leftParen | rightParen | operator =>
    obtain ⟨rfl, rfl⟩ := fail_eq_error h
    exact ⟨.unexpected _, rfl⟩
  | name | boolean => exact absurd h pure_ne_error
  | string text =>
    simp only [readLeaf] at h
    cases hu : unwrapped? text <;> simp only [hu] at h
    · obtain ⟨rfl, rfl⟩ := fail_eq_error h
      exact ⟨.string hu, rfl⟩
    · exact absurd h pure_ne_error
  | number text =>
    simp only [readLeaf] at h
    cases hu : Double.ofText? text <;> simp only [hu] at h
    · obtain ⟨rfl, rfl⟩ := fail_eq_error h
      exact ⟨.number hu, rfl⟩
    · exact absurd h pure_ne_error
  | array payload =>
    simp only [readLeaf] at h
    cases hu : (ofPayload payload : Except (Expr.Error Q) (Expr Q)) <;> simp only [hu] at h
    · obtain ⟨rfl, rfl⟩ := fail_eq_error h
      exact ⟨.array hu, rfl⟩
    · exact absurd h pure_ne_error
  | subQuery query mode =>
    obtain ⟨hc, hl⟩ := compileQuery_eq_error h
    refine ⟨?_, hl⟩
    rcases hc with hc | ⟨e, hc⟩ <;> rw [hc]
    · exact .noEngine query mode
    · exact .subQuery query mode e

/-! ### Operands and groups -/

/-- **An operand** is a token that stands for one, or a group. -/
theorem readOperand_eq_ok {inner? : Option (Reading Q (Expr Q))} {s left : ReadState} {e : Expr Q}
    (h : readOperand settings inner? s = .ok e left) :
    (∃ token t, Takes s token t ∧ IsLeaf settings token e ∧
        left = { t with journal := leafEvents token ++ t.journal }) ∨
      ∃ inner tree t u, inner? = some inner ∧ Takes s .leftParen t ∧ inner t = .ok tree u ∧
        Takes u .rightParen left ∧ e = .group tree := by
  obtain ⟨token, t, hn, h⟩ := bind_eq_ok.1 h
  have hn := nextToken_eq_ok_iff.1 hn
  split at h
  · rename_i ht
    subst ht
    cases inner? with
    | none => exact absurd h fail_ne_ok
    | some inner =>
      obtain ⟨tree, u, hi, h⟩ := bind_eq_ok.1 h
      obtain ⟨closing, v, hc, h⟩ := bind_eq_ok.1 h
      split at h
      · rename_i hclosing
        subst hclosing
        obtain ⟨rfl, rfl⟩ := pure_eq_ok.1 h
        exact .inr ⟨inner, tree, t, u, rfl, hn, within_eq_ok.1 hi, nextToken_eq_ok_iff.1 hc, rfl⟩
      · exact absurd h fail_ne_ok
  · have hl := readLeaf_eq_ok h
    rw [readLeaf_of_isLeaf hl] at h
    exact .inl ⟨token, t, hn, hl, ((EStateM.Result.ok.injEq ..).mp h).2.symm⟩

theorem readOperand_leaf (inner? : Option (Reading Q (Expr Q))) {token : Token} {e : Expr Q}
    {s t : ReadState} (hn : Takes s token t) (hl : IsLeaf settings token e) :
    ∃ left, readOperand settings inner? s = .ok e left ∧ left.tokens = t.tokens := by
  have hne : token ≠ .leftParen := by rintro rfl; cases hl
  refine ⟨{ t with journal := leafEvents token ++ t.journal },
    bind_eq_ok.2 ⟨token, t, nextToken_eq_ok_iff.2 hn, ?_⟩, rfl⟩
  rw [if_neg hne]
  exact readLeaf_of_isLeaf hl t

theorem readOperand_group {inner : Reading Q (Expr Q)} {tree : Expr Q} {s t u left : ReadState}
    (hn : Takes s .leftParen t) (hi : inner t = .ok tree u) (hc : Takes u .rightParen left) :
    readOperand settings (some inner) s = .ok (.group tree) left := by
  refine bind_eq_ok.2 ⟨.leftParen, t, nextToken_eq_ok_iff.2 hn, ?_⟩
  rw [if_pos rfl]
  refine bind_eq_ok.2 ⟨tree, u, within_eq_ok.2 hi, ?_⟩
  refine bind_eq_ok.2 ⟨.rightParen, left, nextToken_eq_ok_iff.2 hc, ?_⟩
  rw [if_pos rfl]
  rfl

/-- Where no group may be opened, the operands are tokens. -/
theorem run_operandReader_zero :
    (operandReader settings 0).run = readOperand settings none := rfl

/-- Where one more group may be opened, it holds an expression. -/
theorem run_operandReader_succ (room : Nat) : (operandReader settings (room + 1)).run =
    readOperand settings (some (readExpression settings (operandReader settings room))) := rfl

/-- However many groups may be opened, a token that stands for an operand is read as one. -/
theorem run_operandReader_leaf (room : Nat) {token : Token} {e : Expr Q} {s t : ReadState}
    (hn : Takes s token t) (hl : IsLeaf settings token e) :
    ∃ left, (operandReader settings room).run s = .ok e left ∧ left.tokens = t.tokens := by
  cases room with
  | zero =>
    rw [run_operandReader_zero]
    exact readOperand_leaf none hn hl
  | succ room =>
    rw [run_operandReader_succ]
    exact readOperand_leaf (some _) hn hl

theorem isBinary_operandReader {room : Nat} {s left : ReadState} {e : Expr Q}
    (h : (operandReader settings room).run s = .ok e left) : e.isBinary = false := by
  have key : ∀ {inner?}, readOperand settings inner? s = .ok e left → e.isBinary = false := by
    intro inner? h
    rcases readOperand_eq_ok h with ⟨_, _, _, hl, _⟩ | ⟨_, _, _, _, _, _, _, _, rfl⟩
    · exact hl.isBinary
    · rfl
  cases room with
  | zero => rw [run_operandReader_zero] at h; exact key h
  | succ room => rw [run_operandReader_succ] at h; exact key h

end Condition.Expr
