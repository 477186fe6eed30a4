import Condition.Proofs.Operands
import Condition.Proofs.Streams

/-! # What the readings of conditions keep

The reading of a condition takes tokens, puts one that ends an expression back, and joins operands
to a tree. So what is known of these steps (`Rules`) is known of every reading: what taking tokens
and putting them back keep holds of the tokens that are left, also behind an error; what groups and
insertions keep holds of the tree; and an error is one of those that the steps may have (`Meets`).

* `meets_expression`, `meets_condition`: whole readings. -/

namespace Condition.Expr

open Reading Token

variable [Pattern.Engine] {Q α β : Type} {settings : Settings Q}

/-! ### Readings and what they come to -/

/-- **What a reading comes to** from tokens of which something is known: what then holds of its
value and the tokens behind it, and of the cause of its error and the tokens behind that. -/
def Meets (pre : Lookahead → Prop) (read : Reading Q α) (post : α → Lookahead → Prop)
    (fails : Expr.Error Q → Lookahead → Prop) : Prop :=
  ∀ s, pre s.tokens → (∀ a left, read s = .ok a left → post a left.tokens) ∧
    ∀ failure left, read s = .error failure left → fails failure.cause left.tokens

namespace Meets

variable {pre : Lookahead → Prop} {post : α → Lookahead → Prop} {after : β → Lookahead → Prop}
  {fails : Expr.Error Q → Lookahead → Prop}

theorem pure {a : α} (h : ∀ t, pre t → post a t) : Meets pre (Pure.pure a) post fails := by
  refine fun s hs => ⟨fun b left hr => ?_, fun failure left hr => absurd hr pure_ne_error⟩
  obtain ⟨rfl, rfl⟩ := pure_eq_ok.1 hr
  exact h _ hs

theorem fail {cause : Expr.Error Q} (h : ∀ t, pre t → fails cause t) :
    Meets pre (Reading.fail cause) post fails := by
  refine fun s hs => ⟨fun a left hr => absurd hr fail_ne_ok, fun failure left hr => ?_⟩
  obtain ⟨rfl, rfl⟩ := fail_eq_error hr
  exact h _ hs

theorem bind {read : Reading Q α} {next : α → Reading Q β} (hr : Meets pre read post fails)
    (hn : ∀ a, Meets (post a) (next a) after fails) : Meets pre (read >>= next) after fails := by
  refine fun s hs => ⟨fun b left h => ?_, fun failure left h => ?_⟩
  · obtain ⟨a, t, ha, hb⟩ := bind_eq_ok.1 h
    exact (hn a t ((hr s hs).1 a t ha)).1 b left hb
  · rcases bind_eq_error.1 h with h | ⟨a, t, ha, hb⟩
    · exact (hr s hs).2 failure left h
    · exact (hn a t ((hr s hs).1 a t ha)).2 failure left hb

theorem ite {p : Prop} [Decidable p] {a b : Reading Q α} (ha : p → Meets pre a post fails)
    (hb : ¬ p → Meets pre b post fails) : Meets pre (if p then a else b) post fails := by
  split
  · exact ha ‹_›
  · exact hb ‹_›

theorem within {read : Reading Q α} (h : Meets pre read post fails) (context : Context) :
    Meets pre (Reading.within context read) post fails := by
  refine fun s hs => ⟨fun a left hr => (h s hs).1 a left (within_eq_ok.1 hr),
    fun failure left hr => ?_⟩
  unfold Reading.within at hr
  split at hr
  · cases hr
  · rename_i inner t hi
    cases hr
    exact (h s hs).2 inner _ hi

end Meets

/-! ### The steps of a reading -/

variable [Json.Parser]

/-- A token was taken where the invariant held, and these are the tokens behind it. -/
def TakenFrom (I : Lookahead → Prop) (token : Token) (left : Lookahead) : Prop :=
  ∃ s position, I s ∧ Token.next s = .ok (token, position) left

/-- **What is known of the steps** of a reading: `I` holds of the tokens in front of each step, and
`E` of the tokens where an error occurs; `T` holds of the trees, and `C` of the causes of errors. -/
structure Rules (settings : Settings Q) (I E : Lookahead → Prop) (T : Expr Q → Prop)
    (C : Expr.Error Q → Prop) : Prop where
  lexical : ∀ {s left e}, I s → Token.next s = .error e left → C (.lex e) ∧ E left
  behind : ∀ {token left}, TakenFrom I token left → E left
  takes : ∀ {token left}, TakenFrom I token left → token ≠ .endOfInput → I left
  putsBack : ∀ {s t left token position}, I s → Token.next s = .ok (token, position) t →
    token.endsExpression = true → Lookahead.putBack t = .ok () left → I left
  operand : ∀ {token left e}, TakenFrom I token left → IsLeaf settings token e → T e
  noOperand : ∀ {token left cause}, TakenFrom I token left → NoOperand settings token cause →
    C cause
  group : ∀ {inner}, T inner → T (.group inner)
  insert : ∀ {tree right}, T tree → T right → ∀ op,
    T (tree.insert settings.precedence op (asRightOperand op right))
  trailingToken : ∀ {tree}, T tree → ∀ token, C (.trailingToken token tree)
  trailingInput : ∀ token, C (.trailingInput token)
  missingParen : ∀ token, C (.missingParen token)
  tooDeep : ∀ limit, C (.tooDeep limit)

/-- A reading of a tree that meets what is known of the steps. -/
abbrev MeetsTree (I E : Lookahead → Prop) (T : Expr Q → Prop) (C : Expr.Error Q → Prop)
    (read : Reading Q (Expr Q)) : Prop :=
  Meets I read (fun e left => T e ∧ I left) fun cause left => C cause ∧ E left

variable {I E : Lookahead → Prop} {T : Expr Q → Prop} {C : Expr.Error Q → Prop}

theorem IsLeaf.ne_endOfInput {token : Token} {e : Expr Q} (h : IsLeaf settings token e) :
    token ≠ .endOfInput := by
  rintro rfl
  cases h

theorem Rules.meets_nextToken (h : Rules settings I E T C) :
    Meets I (Reading.nextToken : Reading Q Token) (TakenFrom I)
      fun cause left => C cause ∧ E left := by
  refine fun s hs => ⟨fun token left hn => ?_, fun failure left hn => ?_⟩
  · obtain ⟨position, hn⟩ := nextToken_eq_ok hn
    exact ⟨s.tokens, position, hs, hn⟩
  · obtain ⟨e, rfl, hlex⟩ := nextToken_eq_error hn
    exact h.lexical hs hlex

theorem Rules.meets_readLeaf (h : Rules settings I E T C) (token : Token) :
    Meets (TakenFrom I token) (readLeaf settings token) (fun e left => T e ∧ I left)
      fun cause left => C cause ∧ E left := by
  refine fun s hs => ⟨fun e left hr => ?_, fun failure left hr => ?_⟩
  · have hl := readLeaf_eq_ok hr
    rw [tokens_readLeaf hr]
    exact ⟨h.operand hs hl, h.takes hs hl.ne_endOfInput⟩
  · obtain ⟨hc, hl⟩ := readLeaf_eq_error hr
    rw [hl]
    exact ⟨h.noOperand hs hc, h.behind hs⟩

theorem Rules.meets_readOperand (h : Rules settings I E T C) {inner? : Option (Reading Q (Expr Q))}
    (hinner : ∀ inner, inner? = some inner → MeetsTree I E T C inner) :
    MeetsTree I E T C (readOperand settings inner?) := by
  refine h.meets_nextToken.bind fun token => .ite (fun ht => ?_) fun _ => h.meets_readLeaf token
  subst ht
  cases inner? with
  | none => exact .fail fun t ht => ⟨h.tooDeep _, h.behind ht⟩
  | some inner =>
    have hin : Meets (TakenFrom I .leftParen) (Reading.within .group inner)
        (fun e left => T e ∧ I left) fun cause left => C cause ∧ E left := fun s hs =>
      (hinner inner rfl).within .group s (h.takes hs (by simp))
    refine hin.bind fun tree => ?_
    have hclosing : Meets (fun t => T tree ∧ I t) (Reading.nextToken : Reading Q Token)
        (fun token left => T tree ∧ TakenFrom I token left) fun cause left => C cause ∧ E left :=
      fun s hs => ⟨fun token left hn => ⟨hs.1, (h.meets_nextToken s hs.2).1 token left hn⟩,
        (h.meets_nextToken s hs.2).2⟩
    refine hclosing.bind fun closing => .ite (fun hc => ?_) fun _ => ?_
    · subst hc
      exact .pure fun t ht => ⟨h.group ht.1, h.takes ht.2 (by simp)⟩
    · exact .fail fun t ht => ⟨h.missingParen closing, h.behind ht.2⟩

/-- A token that ends an expression was taken just before, so it can be put back. -/
theorem Rules.meets_putBack (h : Rules settings I E T C) {token : Token}
    (he : token.endsExpression = true) {tree : Expr Q} (ht : T tree) :
    Meets (TakenFrom I token) (do putBack; return tree : Reading Q (Expr Q))
      (fun e left => T e ∧ I left) fun cause left => C cause ∧ E left := by
  rintro s ⟨t, position, hi, hn⟩
  obtain ⟨u, hu, -⟩ := putBack_next hn he
  have hback : (do putBack; return tree : Reading Q (Expr Q)) s = .ok tree ⟨u, s.journal⟩ :=
    bind_eq_ok.2 ⟨(), ⟨u, s.journal⟩, putBack_eq_ok_iff.2 ⟨hu, rfl⟩, rfl⟩
  refine ⟨fun e left hr => ?_, fun failure left hr => ?_⟩
  · rw [hback] at hr
    cases hr
    exact ⟨ht, h.putsBack hi hn he hu⟩
  · rw [hback] at hr
    cases hr

/-! ### Whole readings -/

theorem Rules.meets_readOperators (h : Rules settings I E T C) {operand : Reader Q (Expr Q)}
    (hop : MeetsTree I E T C operand.run) {tree : Expr Q} (ht : T tree) :
    MeetsTree I E T C (readOperators settings operand tree) := by
  intro s hs
  -- round by round: the tokens in front of each, and the tree so far
  fun_induction readOperators settings operand tree s with
  | case1 tree s failure t hn =>
    refine ⟨by rintro e left ⟨⟩, ?_⟩
    rintro failure left ⟨⟩
    exact (h.meets_nextToken s hs).2 _ _ hn
  | case2 tree s t hn | case3 tree s t hn | case4 tree s t hn =>
    exact h.meets_putBack rfl ht t ((h.meets_nextToken s hs).1 _ _ hn)
  | case5 tree s op t hn failure u hright =>
    have hop := hop.within .rightOperand t (h.takes ((h.meets_nextToken s hs).1 _ _ hn) (by simp))
    refine ⟨by rintro e left ⟨⟩, ?_⟩
    rintro failure left ⟨⟩
    exact hop.2 _ _ hright
  | case6 tree s op t hn right u hright ih =>
    have hop := hop.within .rightOperand t (h.takes ((h.meets_nextToken s hs).1 _ _ hn) (by simp))
    obtain ⟨hr, hi⟩ := hop.1 _ _ hright
    exact ih (h.insert ht hr op) hi
  | case7 tree s token t _ _ _ _ hn =>
    have hfail : Meets (TakenFrom I token) (Reading.fail (.trailingToken token tree) :
        Reading Q (Expr Q)) (fun e left => T e ∧ I left) fun cause left => C cause ∧ E left :=
      .fail fun t hs => ⟨h.trailingToken ht token, h.behind hs⟩
    exact hfail t ((h.meets_nextToken s hs).1 _ _ hn)

theorem Rules.meets_readExpression (h : Rules settings I E T C) {operand : Reader Q (Expr Q)}
    (hop : MeetsTree I E T C operand.run) : MeetsTree I E T C (readExpression settings operand) :=
  (hop.within .operand).bind fun _ s hs => h.meets_readOperators hop hs.1 s hs.2

theorem Rules.meets_operandReader (h : Rules settings I E T C) (room : Nat) :
    MeetsTree I E T C (operandReader settings room).run := by
  induction room with
  | zero =>
    rw [run_operandReader_zero]
    exact h.meets_readOperand (by rintro inner ⟨⟩)
  | succ room ih =>
    rw [run_operandReader_succ]
    refine h.meets_readOperand ?_
    rintro inner ⟨rfl⟩
    exact h.meets_readExpression ih

/-- **An expression.** -/
theorem meets_expression (h : Rules settings I E T C) : MeetsTree I E T C (expression settings) :=
  h.meets_readExpression (h.meets_operandReader _)

/-- **A condition**, which ends where the input does. -/
theorem meets_condition (h : Rules settings I E T C) :
    Meets I (condition settings) (fun tree left => T tree ∧ E left)
      fun cause left => C cause ∧ E left := by
  refine (meets_expression h).bind fun tree => ?_
  rintro s ⟨ht, hi⟩
  have hend : Meets I (do
      let token ← Reading.nextToken
      if token = .endOfInput then do record (.parsed tree.display); return tree
      else Reading.fail (.trailingInput token) : Reading Q (Expr Q))
      (fun tree left => T tree ∧ E left) fun cause left => C cause ∧ E left := by
    refine h.meets_nextToken.bind fun token => .ite (fun _ t hs => ⟨?_, ?_⟩) fun _ => ?_
    · rintro e left ⟨⟩
      exact ⟨ht, h.behind hs⟩
    · rintro failure left ⟨⟩
    · exact .fail fun t hs => ⟨h.trailingInput token, h.behind hs⟩
  exact hend s hi

end Condition.Expr
