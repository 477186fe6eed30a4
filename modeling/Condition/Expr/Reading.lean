import Condition.Double.Rounding
import Condition.Expr.Display
import Condition.Journal
import Condition.Json.Parser
import Condition.Token.Reading

/-!
# Reading expressions

A condition is operands joined by operators, and an operand is a literal, a name, a query or a
condition in parentheses. Tokens are taken one at a time; a parenthesis or the end of the input
behind an operand is put back, and ends the expression.

The operands of the innermost groups allowed are read without groups, and those of the groups around
them by readings of smaller rooms: `Reader` is a reading with the proof that it never leaves more
unread than there was, so the loop over operators ends, and the depth of groups is counted down
(`operandReader`).

A parser of JSON reads array literals. One takes its kind from its first element, and leaves
elements of another kind out. A string that is the right operand of an operator for patterns becomes
a pattern if the engine of patterns compiles it.
-/

namespace Condition

/-- What was being read where an error occurred. -/
inductive Expr.Context where
  | operand
  | rightOperand
  | group
  deriving DecidableEq, Repr

/-- The text of a context. -/
def Expr.Context.message : Expr.Context → String
  | .operand => "cannot parse operand"
  | .rightOperand => "cannot parse right-hand operand"
  | .group => "cannot parse parenthesised expression"

variable [Pattern.Engine]

/-- Why a text is no condition. -/
inductive Expr.Error (Q : Type) where
  | lex (error : Lexeme.Error)
  | unexpectedToken (found : Token)
  | trailingToken (found : Token) (partialTree : Expr Q)
  | trailingInput (found : Token)
  | missingParen (found : Token)
  | tooDeep (limit : Nat)
  | invalidNumber (text : Text)
  | invalidString (text : Text)
  | invalidArray (payload : Text)
  | emptyArray
  | unsupportedArray (found : Json.Kind)
  | noQueryEngine (query : Text)
  | subQuery (query : Text) (error : Query.Error)

/-- The text of an error. -/
def Expr.Error.message {Q : Type} : Expr.Error Q → String
  | .lex error => error.message
  | .unexpectedToken found =>
    s!"unexpected {String.ofList found.display} where an operand was expected"
  | .trailingToken found _ => s!"expected an operator, found {String.ofList found.display}"
  | .trailingInput found =>
    s!"unexpected {String.ofList found.display} after the end of the expression"
  | .missingParen found => s!"missing closing ')', found {String.ofList found.display}"
  | .tooDeep limit => s!"parentheses nested deeper than {limit} levels"
  | .invalidNumber text => s!"invalid number '{String.ofList text}'"
  | .invalidString text => s!"invalid string literal {String.ofList text}"
  | .invalidArray payload => s!"invalid array literal [{String.ofList payload}]"
  | .emptyArray => "array literal must not be empty"
  | .unsupportedArray found =>
    s!"array literal must start with a string or a number, found {found.name}"
  | .noQueryEngine query =>
    s!"sub-query $jq({String.ofList query}) used but no query engine is configured"
  | .subQuery query _ => s!"cannot compile sub-query '{String.ofList query}'"

/-- An error of a reading with what was being read. -/
abbrev Expr.ReadFailure (Q : Type) := Failure Expr.Context (Expr.Error Q)

/-- How conditions are read: how tight operators bind, how many groups may be open at once, and
which engine compiles queries. -/
structure Settings (Q : Type) where
  precedence : Precedence := .standard
  maxNesting : Nat := 64
  engine : Option (Query.Engine Q) := none

namespace Expr

/-- The tokens that are left, and what happened so far, the last event first. -/
structure ReadState where
  tokens : Lookahead
  journal : List Event

/-- The state at the start of a text. -/
def ReadState.ofText (text : Text) : ReadState := ⟨Lookahead.ofText text, []⟩

/-- A reading of a part of a condition. -/
abbrev Reading (Q : Type) := EStateM (Expr.ReadFailure Q) ReadState

namespace Reading

variable {Q α β : Type}

/-- Ends a reading with an error. -/
def fail (error : Expr.Error Q) : Reading Q α := throw (Failure.ofCause error)

/-- Notes an event. -/
def record (event : Event) : Reading Q Unit := fun s =>
  .ok () { s with journal := event :: s.journal }

/-- Adds a context to the error of a reading. -/
def within (context : Expr.Context) (read : Reading Q α) : Reading Q α := fun s =>
  match read s with
  | .ok a left => .ok a left
  | .error e left => .error (e.within context) left

/-- Runs a reading of tokens. -/
def onTokens (read : Lookahead.Reading α) : Reading Q α := fun s =>
  match read s.tokens with
  | .ok a tokens => .ok a { s with tokens := tokens }
  | .error e tokens => .error (Failure.ofCause (.lex e)) { s with tokens := tokens }

/-- Takes the next token and notes it. -/
def nextToken : Reading Q Token := do
  let (token, position) ← onTokens Token.next
  record (.token token position)
  return token

/-- Puts the token taken last back. -/
def putBack : Reading Q Unit := onTokens Lookahead.putBack

end Reading

open Reading

/-! ### What a reading leaves -/

/-- A reading that never leaves more unread than there was. -/
structure Reader (Q α : Type) where
  run : Reading Q α
  consumes : ∀ {s left : ReadState} {a : α}, run s = .ok a left →
    left.tokens.unread ≤ s.tokens.unread

theorem bind_eq_ok {Q α β : Type} {read : Reading Q α} {next : α → Reading Q β}
    {s left : ReadState} {b : β} : (read >>= next) s = .ok b left ↔
      ∃ a t, read s = .ok a t ∧ next a t = .ok b left := by
  change EStateM.bind read next s = .ok b left ↔ _
  unfold EStateM.bind
  cases read s with
  | ok a t =>
    simp only [EStateM.Result.ok.injEq]
    exact ⟨fun h => ⟨a, t, ⟨rfl, rfl⟩, h⟩, fun ⟨_, _, ⟨ha, ht⟩, h⟩ => by rw [ha, ht]; exact h⟩
  | error e t => simp

theorem pure_eq_ok {Q α : Type} {a b : α} {s left : ReadState} :
    (pure a : Reading Q α) s = .ok b left ↔ a = b ∧ s = left := by
  change EStateM.Result.ok a s = .ok b left ↔ _
  simp

theorem fail_ne_ok {Q α : Type} {error : Expr.Error Q} {s left : ReadState} {a : α} :
    (fail error : Reading Q α) s ≠ .ok a left := by
  intro h
  change EStateM.Result.error _ s = .ok a left at h
  cases h

theorem within_eq_ok {Q α : Type} {context : Expr.Context} {read : Reading Q α}
    {s left : ReadState} {a : α} : within context read s = .ok a left ↔ read s = .ok a left := by
  unfold within
  cases read s <;> simp

theorem onTokens_eq_ok {Q α : Type} {read : Lookahead.Reading α} {s left : ReadState} {a : α}
    (h : (onTokens read : Reading Q α) s = .ok a left) :
    read s.tokens = .ok a left.tokens ∧ left.journal = s.journal := by
  unfold onTokens at h
  split at h
  · rename_i found tokens hr
    simp only [EStateM.Result.ok.injEq] at h
    obtain ⟨rfl, rfl⟩ := h
    exact ⟨hr, rfl⟩
  · cases h

theorem nextToken_eq_ok {Q : Type} {s left : ReadState} {token : Token}
    (h : (nextToken : Reading Q Token) s = .ok token left) :
    ∃ position, Token.next s.tokens = .ok (token, position) left.tokens := by
  obtain ⟨⟨found, position⟩, t, hn, h⟩ := bind_eq_ok.1 h
  obtain ⟨_, u, hr, h⟩ := bind_eq_ok.1 h
  obtain ⟨rfl, rfl⟩ := pure_eq_ok.1 h
  simp only [record, EStateM.Result.ok.injEq, true_and] at hr
  subst hr
  exact ⟨position, (onTokens_eq_ok hn).1⟩

theorem unread_nextToken {Q : Type} {s left : ReadState} {token : Token}
    (h : (nextToken : Reading Q Token) s = .ok token left) :
    left.tokens.unread ≤ s.tokens.unread := by
  obtain ⟨position, hn⟩ := nextToken_eq_ok h
  exact Nat.le_trans (Lookahead.unread_le_held _) (Token.held_next hn)

theorem unread_nextToken_lt {Q : Type} {s left : ReadState} {op : Operator}
    (h : (nextToken : Reading Q Token) s = .ok (.operator op) left) :
    left.tokens.unread < s.tokens.unread := by
  obtain ⟨position, hn⟩ := nextToken_eq_ok h
  exact Token.unread_next_lt hn (by simp)

/-- A token that is put back leaves no more unread than there was in front of it. -/
theorem unread_putBack {Q : Type} {s t left : ReadState} {token : Token}
    (h : (nextToken : Reading Q Token) s = .ok token t)
    (h' : (putBack : Reading Q Unit) t = .ok () left) :
    left.tokens.unread ≤ s.tokens.unread := by
  obtain ⟨position, hn⟩ := nextToken_eq_ok h
  exact (Lookahead.held_putBack (onTokens_eq_ok h').1).2 ▸ Token.held_next hn

/-! ### Operators -/

/-- The right operand of an operator: a string for a pattern becomes one if it reads as one. -/
def asRightOperand {Q : Type} (op : Operator) : Expr Q → Expr Q
  | .string text =>
    if op.takesPattern then
      match Pattern.ofText? text with
      | some p => .pattern p
      | none => .string text
    else .string text
  | other => other

/-- The operators behind an expression, each with its right operand, up to a parenthesis or the end
of the input. -/
def readOperators {Q : Type} (settings : Settings Q) (operand : Reader Q (Expr Q)) (left : Expr Q)
    (s : ReadState) : EStateM.Result (Expr.ReadFailure Q) ReadState (Expr Q) :=
  match _hn : nextToken s with
  | .error e t => .error e t
  | .ok .endOfInput t => (do putBack; return left : Reading Q (Expr Q)) t
  | .ok .leftParen t => (do putBack; return left : Reading Q (Expr Q)) t
  | .ok .rightParen t => (do putBack; return left : Reading Q (Expr Q)) t
  | .ok (.operator op) t =>
    match _hr : within .rightOperand operand.run t with
    | .error e u => .error e u
    | .ok right u =>
      readOperators settings operand (left.insert settings.precedence op (asRightOperand op right))
        u
  | .ok token t => fail (.trailingToken token left) t
termination_by s.tokens.unread
decreasing_by
  have := unread_nextToken_lt _hn
  have := operand.consumes (within_eq_ok.1 _hr)
  omega

theorem unread_readOperators {Q : Type} {settings : Settings Q} {operand : Reader Q (Expr Q)}
    {first e : Expr Q} {s left : ReadState}
    (h : readOperators settings operand first s = .ok e left) :
    left.tokens.unread ≤ s.tokens.unread := by
  have back : ∀ {s t left : ReadState} {token : Token} {tree e : Expr Q},
      (nextToken : Reading Q Token) s = .ok token t →
      (do putBack; return tree : Reading Q (Expr Q)) t = .ok e left →
      left.tokens.unread ≤ s.tokens.unread := by
    intro s t left token tree e hn h
    obtain ⟨_, u, hp, h⟩ := bind_eq_ok.1 h
    rw [← (pure_eq_ok.1 h).2]
    exact unread_putBack hn hp
  fun_induction readOperators settings operand first s with
  | case1 => cases h
  | case2 => rename_i hn; exact back hn h
  | case3 => rename_i hn; exact back hn h
  | case4 => rename_i hn; exact back hn h
  | case5 => cases h
  | case6 left s op t hn right u hr ih =>
    have := ih h
    have := unread_nextToken_lt hn
    have := operand.consumes (within_eq_ok.1 hr)
    omega
  | case7 => exact absurd h fail_ne_ok

/-- An expression, up to a parenthesis or the end of the input, of operands that a reading gives. -/
def readExpression {Q : Type} (settings : Settings Q) (operand : Reader Q (Expr Q)) :
    Reading Q (Expr Q) := do
  let first ← within .operand operand.run
  readOperators settings operand first

/-- The reader of expressions with the operands of another reader. -/
def expressionReader {Q : Type} (settings : Settings Q) (operand : Reader Q (Expr Q)) :
    Reader Q (Expr Q) where
  run := readExpression settings operand
  consumes h := by
    obtain ⟨first, t, hf, h⟩ := bind_eq_ok.1 h
    exact Nat.le_trans (unread_readOperators h) (operand.consumes (within_eq_ok.1 hf))

/-! ### Operands -/

/-- The text without its first and its last character, if it has two. -/
def unwrapped? (text : Text) : Option Text :=
  if text.length < 2 then none else some text.tail.dropLast

/-- The list of the strings or of the numbers among the elements, as the first one says. -/
def ofItems {Q : Type} (items : List Json) : Except (Expr.Error Q) (Expr Q) :=
  match items.head? with
  | none => .error .emptyArray
  | some (.string _) => .ok (.strings (items.filterMap Json.text?))
  | some (.number _) => .ok (.numbers (items.filterMap Json.double?))
  | some other => .error (.unsupportedArray other.kind)

/-- The compiled query that a reference stands for. -/
def compileQuery {Q : Type} (settings : Settings Q) (query : Text) (mode : Option Text) :
    Reading Q (Expr Q) :=
  match settings.engine with
  | none => fail (.noQueryEngine query)
  | some engine => do
    record (.compiling query)
    match engine query with
    | .ok compiled => return .subQuery query (Query.Mode.ofName mode) compiled
    | .error e => fail (.subQuery query e)

theorem tokens_compileQuery {Q : Type} {settings : Settings Q} {query : Text} {mode : Option Text}
    {s left : ReadState} {e : Expr Q} (h : compileQuery settings query mode s = .ok e left) :
    left.tokens = s.tokens := by
  unfold compileQuery at h
  cases he : settings.engine with
  | none =>
    simp only [he] at h
    exact absurd h fail_ne_ok
  | some engine =>
    simp only [he] at h
    obtain ⟨_, u, hr, h⟩ := bind_eq_ok.1 h
    simp only [record, EStateM.Result.ok.injEq, true_and] at hr
    subst hr
    cases hc : engine query with
    | ok compiled =>
      simp only [hc] at h
      rw [← (pure_eq_ok.1 h).2]
    | error error =>
      simp only [hc] at h
      exact absurd h fail_ne_ok

variable [Json.Parser]

/-- The list that an array literal spells. -/
def ofPayload {Q : Type} (payload : Text) : Except (Expr.Error Q) (Expr Q) :=
  match Json.read? ('[' :: payload ++ [']']) with
  | some (.array items) => ofItems items
  | _ => .error (.invalidArray payload)

/-- The operand that a token other than an opening parenthesis is. -/
def readLeaf {Q : Type} (settings : Settings Q) : Token → Reading Q (Expr Q)
  | .name text => return .name text
  | .string text =>
    match unwrapped? text with
    | some content => return .string content
    | none => fail (.invalidString text)
  | .number text =>
    match Double.ofText? text with
    | some d => return .number d
    | none => fail (.invalidNumber text)
  | .boolean b => return .boolean b
  | .array payload =>
    match ofPayload payload with
    | .ok list => return list
    | .error e => fail e
  | .subQuery query mode => compileQuery settings query mode
  | token => fail (.unexpectedToken token)

/-- An operand; with a reading for what stands in a group, that may be one. -/
def readOperand {Q : Type} (settings : Settings Q) (inner? : Option (Reading Q (Expr Q))) :
    Reading Q (Expr Q) := do
  let token ← nextToken
  if token = .leftParen then
    match inner? with
    | none => fail (.tooDeep settings.maxNesting)
    | some inner =>
      let tree ← within .group inner
      let closing ← nextToken
      if closing = .rightParen then return .group tree else fail (.missingParen closing)
  else readLeaf settings token

theorem tokens_readLeaf {Q : Type} {settings : Settings Q} {token : Token} {s left : ReadState}
    {e : Expr Q} (h : readLeaf settings token s = .ok e left) : left.tokens = s.tokens := by
  cases token with
  | endOfInput => exact absurd h fail_ne_ok
  | leftParen => exact absurd h fail_ne_ok
  | rightParen => exact absurd h fail_ne_ok
  | operator op => exact absurd h fail_ne_ok
  | name text => rw [← (pure_eq_ok.1 h).2]
  | boolean b => rw [← (pure_eq_ok.1 h).2]
  | subQuery query mode => exact tokens_compileQuery h
  | string text =>
    simp only [readLeaf] at h
    cases hu : unwrapped? text <;> simp only [hu] at h
    · exact absurd h fail_ne_ok
    · rw [← (pure_eq_ok.1 h).2]
  | number text =>
    simp only [readLeaf] at h
    cases hu : Double.ofText? text <;> simp only [hu] at h
    · exact absurd h fail_ne_ok
    · rw [← (pure_eq_ok.1 h).2]
  | array payload =>
    simp only [readLeaf] at h
    cases hu : (ofPayload payload : Except (Expr.Error Q) (Expr Q)) <;> simp only [hu] at h
    · exact absurd h fail_ne_ok
    · rw [← (pure_eq_ok.1 h).2]

theorem unread_readOperand {Q : Type} {settings : Settings Q} {inner? : Option (Reader Q (Expr Q))}
    {s left : ReadState} {e : Expr Q}
    (h : readOperand settings (inner?.map Reader.run) s = .ok e left) :
    left.tokens.unread ≤ s.tokens.unread := by
  obtain ⟨token, t, hn, h⟩ := bind_eq_ok.1 h
  have hle := unread_nextToken hn
  split at h
  · cases inner? with
    | none => exact absurd h fail_ne_ok
    | some inner =>
      obtain ⟨tree, u, hi, h⟩ := bind_eq_ok.1 h
      obtain ⟨closing, v, hc, h⟩ := bind_eq_ok.1 h
      have := inner.consumes (within_eq_ok.1 hi)
      have := unread_nextToken hc
      split at h
      · rw [← (pure_eq_ok.1 h).2]
        omega
      · exact absurd h fail_ne_ok
  · rw [tokens_readLeaf h]
    exact hle

/-- The reader of operands with groups that another reader reads. -/
def operandReaderWith {Q : Type} (settings : Settings Q) (inner? : Option (Reader Q (Expr Q))) :
    Reader Q (Expr Q) :=
  ⟨readOperand settings (inner?.map Reader.run), unread_readOperand⟩

/-- The reader of operands in which a number of groups may stand in one another. The reader of what
stands in a group is made when there is a group to read, so room that is not used costs nothing. -/
def operandReader {Q : Type} (settings : Settings Q) : (room : Nat) → Reader Q (Expr Q)
  | 0 => operandReaderWith settings none
  | room + 1 =>
    operandReaderWith settings (some
      ⟨fun s => (expressionReader settings (operandReader settings room)).run s,
        (expressionReader settings (operandReader settings room)).consumes⟩)

/-! ### Conditions -/

/-- An expression with as many open groups as the settings allow, up to a parenthesis or the end of
the input. -/
def expression {Q : Type} (settings : Settings Q) : Reading Q (Expr Q) :=
  readExpression settings (operandReader settings settings.maxNesting)

/-- An expression that ends where the input does. -/
def condition {Q : Type} (settings : Settings Q) : Reading Q (Expr Q) := do
  let tree ← expression settings
  let token ← nextToken
  if token = .endOfInput then
    record (.parsed tree.display)
    return tree
  else fail (.trailingInput token)

/-- The condition that a text spells. -/
def ofText {Q : Type} (settings : Settings Q) (text : Text) :
    Journaled (Expr.ReadFailure Q) (Expr Q) :=
  match condition settings (ReadState.ofText text) with
  | .ok tree s => ⟨s.journal.reverse, .ok tree⟩
  | .error e s => ⟨s.journal.reverse, .error e⟩

end Expr
end Condition
