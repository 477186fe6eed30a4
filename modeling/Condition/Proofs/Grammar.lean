import Condition.Proofs.Operands

/-! # The grammar of conditions

Conditions have a grammar over tokens (`Derives`), in which a number of parentheses may be open at
once (`OpenAtMost`).

* `converts_of_isLeaf`, `exists_isLeaf`: the tokens that the grammar has for operands are those that
  stand for one, numbers that are no doubles apart.
* `Derives.openAtMost_group`, `Derives.openAtMost_joined`: the open parentheses of what is derived
  are those of its parts. -/

namespace Condition.Expr

/-! ### Open parentheses -/

/-- No more than `room` parentheses are open at once. -/
def OpenAtMost (room : Nat) (tokens : List Token) : Prop :=
  ∀ n, (tokens.take n).count .leftParen ≤ (tokens.take n).count .rightParen + room

theorem openAtMost_append {room : Nat} {tokens others : List Token}
    (h : tokens.count .leftParen = tokens.count .rightParen) :
    OpenAtMost room (tokens ++ others) ↔ OpenAtMost room tokens ∧ OpenAtMost room others := by
  constructor
  · refine fun ho => ⟨fun n => ?_, fun n => ?_⟩
    · have := ho (min n tokens.length)
      rwa [List.take_append_of_le_length (Nat.min_le_right ..), List.take_eq_take_min.symm] at this
    · have := ho (tokens.length + n)
      rw [List.take_length_add_append, List.count_append, List.count_append] at this
      omega
  · rintro ⟨ht, ho⟩ n
    have ht := ht n
    have ho := ho (n - tokens.length)
    rw [List.take_append, List.count_append, List.count_append]
    rcases Nat.le_total n tokens.length with hn | hn
    · rw [Nat.sub_eq_zero_of_le hn]
      simpa using ht
    · rw [List.take_of_length_le hn]
      omega

theorem openAtMost_singleton (room : Nat) {token : Token} (h : token ≠ .leftParen) :
    OpenAtMost room [token] := by
  intro n
  cases n with
  | zero => simp
  | succ n => simp [h]

theorem not_openAtMost_zero (tokens : List Token) : ¬ OpenAtMost 0 (.leftParen :: tokens) := by
  intro h
  have := h 1
  simp at this

theorem openAtMost_leftParen {room : Nat} {tokens : List Token} :
    OpenAtMost (room + 1) (.leftParen :: tokens) ↔ OpenAtMost room tokens := by
  constructor
  · intro h n
    have := h (n + 1)
    simp only [List.take_succ_cons, List.count_cons_self, List.count_cons_of_ne, ne_eq,
      reduceCtorEq, not_false_eq_true] at this
    omega
  · intro h n
    cases n with
    | zero => simp
    | succ n =>
      have := h n
      simp only [List.take_succ_cons, List.count_cons_self, List.count_cons_of_ne, ne_eq,
        reduceCtorEq, not_false_eq_true]
      omega

/-! ### The grammar -/

variable [Json.Parser] {Q : Type} {settings : Settings Q}

/-- Whether a token stands for an operand. -/
def Converts (settings : Settings Q) : Token → Prop
  | .name _ | .number _ | .boolean _ => True
  | .string text => 2 ≤ text.length
  | .array payload => ∃ first items,
      Json.read? ('[' :: payload ++ [']']) = some (.array (first :: items)) ∧
        (first.kind = .string ∨ first.kind = .number)
  | .subQuery query _ => ∃ engine compiled,
      settings.engine = some engine ∧ engine query = .ok compiled
  | .endOfInput | .leftParen | .rightParen | .operator _ => False

/-- What the grammar has rules for. -/
inductive Nonterminal where
  | operand
  | expression

/-- **The grammar**: an operand is a token that stands for one, or an expression in parentheses; an
expression is operands with operators between them. -/
inductive Derives (settings : Settings Q) : Nonterminal → List Token → Prop where
  | leaf {token : Token} (h : Converts settings token) : Derives settings .operand [token]
  | group {tokens : List Token} (h : Derives settings .expression tokens) :
    Derives settings .operand (.leftParen :: (tokens ++ [.rightParen]))
  | alone {tokens : List Token} (h : Derives settings .operand tokens) :
    Derives settings .expression tokens
  | joined {tokens others : List Token} {op : Operator} (h : Derives settings .operand tokens)
    (h' : Derives settings .expression others) :
    Derives settings .expression (tokens ++ .operator op :: others)

theorem Converts.ne_endOfInput {token : Token} (h : Converts settings token) :
    token ≠ .endOfInput := by
  rintro rfl
  exact h

theorem Converts.count {token paren : Token} (h : Converts settings token)
    (hp : paren = .leftParen ∨ paren = .rightParen) : [token].count paren = 0 := by
  refine List.count_eq_zero.2 fun hmem => ?_
  obtain rfl := List.mem_singleton.1 hmem
  rcases hp with rfl | rfl <;> exact h

/-- What is derived closes the parentheses that it opens. -/
theorem Derives.count {n : Nonterminal} {tokens : List Token} (h : Derives settings n tokens) :
    tokens.count .leftParen = tokens.count .rightParen := by
  induction h with
  | leaf h => rw [h.count (.inl rfl), h.count (.inr rfl)]
  | group _ ih => simp [ih]
  | alone _ ih => exact ih
  | joined _ _ ih ih' => simp [ih, ih']

/-- A group has one parenthesis more open than what stands in it. -/
theorem Derives.openAtMost_group {n : Nonterminal} {room : Nat} {tokens : List Token}
    (h : Derives settings n tokens) :
    OpenAtMost (room + 1) (.leftParen :: (tokens ++ [.rightParen])) ↔ OpenAtMost room tokens := by
  rw [openAtMost_leftParen, openAtMost_append h.count]
  exact and_iff_left (openAtMost_singleton room (by simp))

theorem Derives.openAtMost_joined {n : Nonterminal} {room : Nat} {tokens others : List Token}
    {op : Operator} (h : Derives settings n tokens) :
    OpenAtMost room (tokens ++ .operator op :: others) ↔
      OpenAtMost room tokens ∧ OpenAtMost room others := by
  have hop : OpenAtMost room ([.operator op] ++ others) ↔
      OpenAtMost room [.operator op] ∧ OpenAtMost room others := openAtMost_append rfl
  rw [openAtMost_append h.count]
  refine and_congr_right fun _ => hop.trans ?_
  exact and_iff_right (openAtMost_singleton room (by simp))

theorem Derives.with_maxNesting {n : Nonterminal} {tokens : List Token}
    (h : Derives settings n tokens)
    (k : Nat) : Derives { settings with maxNesting := k } n tokens := by
  induction h with
  | leaf h => exact .leaf h
  | group _ ih => exact .group ih
  | alone _ ih => exact .alone ih
  | joined _ _ ih ih' => exact .joined ih ih'

/-! ### Tokens as operands -/

variable [Pattern.Engine]

theorem converts_of_isLeaf {token : Token} {e : Expr Q} (h : IsLeaf settings token e) :
    Converts settings token := by
  cases h with
  | name text => trivial
  | number h => trivial
  | boolean b => trivial
  | @string text content h =>
    unfold unwrapped? at h
    split at h
    · cases h
    · exact Nat.le_of_not_lt ‹_›
  | @subQuery query engine compiled mode he hc => exact ⟨engine, compiled, he, hc⟩
  | array h =>
    obtain ⟨items, hr, hi⟩ := ofPayload_eq_ok h
    cases items with
    | nil => cases hi
    | cons first items =>
      refine ⟨first, items, hr, ?_⟩
      cases first with
      | string text => exact .inl rfl
      | number n => exact .inr rfl
      | null | boolean _ | array _ | object _ => cases hi

/-- A token that stands for an operand is one, if the numbers among the tokens are doubles. -/
theorem exists_isLeaf {token : Token} (h : Converts settings token)
    (hd : ∀ text, token = .number text → (Double.ofText? text).isSome = true) :
    ∃ e, IsLeaf settings token e := by
  cases token with
  | endOfInput | leftParen | rightParen | operator op => cases h
  | name text => exact ⟨_, .name text⟩
  | boolean b => exact ⟨_, .boolean b⟩
  | number text =>
    obtain ⟨d, hd⟩ := Option.isSome_iff_exists.1 (hd text rfl)
    exact ⟨_, .number hd⟩
  | string text => exact ⟨_, .string (if_neg (Nat.not_lt.2 h))⟩
  | subQuery query mode =>
    obtain ⟨engine, compiled, he, hc⟩ := h
    exact ⟨_, .subQuery mode he hc⟩
  | array payload =>
    obtain ⟨first, items, hr, hk⟩ := h
    have key : ∀ {list : Expr Q}, ofItems (first :: items) = .ok list →
        IsLeaf settings (.array payload) list := by
      intro list hl
      exact .array (by simp only [ofPayload, hr, hl])
    cases first with
    | string text => exact ⟨_, key rfl⟩
    | number n => exact ⟨_, key rfl⟩
    | null | boolean _ | array _ | object _ => rcases hk with hk | hk <;> cases hk

end Condition.Expr
