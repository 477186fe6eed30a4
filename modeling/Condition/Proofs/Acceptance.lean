import Condition.Proofs.Chains
import Condition.Proofs.Grammar
import Condition.Proofs.Streams

/-! # Readings and the grammar

The readings of operands and of chains of operators are those parts of the stream of tokens that the
grammar derives, with no token lost, repeated or altered between two states (`Delivers`).

* `derives_of_reads`: what is read is derived, and just its tokens are taken.
* `reads_of_derives`: what is derived is read, and what follows it is left. -/

namespace Condition.Expr

open Reading Token

/-! ### What readings deliver -/

/-- Between two states just these tokens are taken. -/
def Delivers (s : ReadState) (tokens : List Token) (left : ReadState) : Prop :=
  listFrom s.tokens = (listFrom left.tokens).map (tokens ++ ·)

theorem Delivers.refl (s : ReadState) : Delivers s [] s := by
  unfold Delivers
  cases listFrom s.tokens <;> rfl

theorem Delivers.trans {s t left : ReadState} {tokens others : List Token}
    (h : Delivers s tokens t) (h' : Delivers t others left) :
    Delivers s (tokens ++ others) left := by
  unfold Delivers at h h' ⊢
  rw [h, h']
  cases listFrom left.tokens with
  | error e => rfl
  | ok rest => exact congrArg Except.ok (List.append_assoc ..).symm

theorem Delivers.of_tokens {s t left : ReadState} {tokens : List Token}
    (h : Delivers s tokens t) (ht : left.tokens = t.tokens) : Delivers s tokens left := by
  unfold Delivers at h ⊢
  rw [h, ht]

theorem Takes.delivers {s left : ReadState} {token : Token} (h : Takes s token left)
    (hne : token ≠ .endOfInput) : Delivers s [token] left := by
  obtain ⟨position, hn, -⟩ := h
  exact listFrom_of_next hn hne

theorem EndsAt.delivers {s left : ReadState} (h : EndsAt s left) : Delivers s [] left := by
  obtain ⟨token, t, ⟨position, hn, -⟩, he, hp, -⟩ := h
  obtain ⟨u, hu, hnext⟩ := putBack_next hn he
  rw [hp] at hu
  cases hu
  unfold Delivers
  rw [← listFrom_congr hnext]
  exact Delivers.refl left

/-! ### Streams of tokens -/

theorem takes_of_streams {s : ReadState} {token : Token} {tokens : List Token}
    (h : Streams s.tokens (token :: tokens)) :
    ∃ left, Takes s token left ∧ (token ≠ .endOfInput → Streams left.tokens tokens) := by
  obtain ⟨position, left, hn, hs⟩ := h.exists_next
  exact ⟨⟨left, .token token position :: s.journal⟩, ⟨position, hn, rfl⟩, hs⟩

/-- In front of a token that ends an expression the expression ends, and the stream goes on. -/
theorem endsAt_of_streams {s : ReadState} {token : Token} {tokens : List Token}
    (h : Streams s.tokens (token :: tokens)) (he : token.endsExpression = true) :
    ∃ left, EndsAt s left ∧ Streams left.tokens (token :: tokens) := by
  obtain ⟨t, ⟨position, hn, hj⟩, -⟩ := takes_of_streams h
  obtain ⟨u, hu, hs⟩ := h.exists_putBack hn he
  exact ⟨⟨u, t.journal⟩, ⟨token, t, ⟨position, hn, hj⟩, he, hu, rfl⟩, hs⟩

/-! ### Parts of the grammar -/

variable [Json.Parser] {Q : Type} {settings : Settings Q}

/-- Between two states a part of the grammar is taken. -/
def Spells (settings : Settings Q) (room : Nat) (n : Nonterminal) (s left : ReadState) : Prop :=
  ∃ tokens, Derives settings n tokens ∧ OpenAtMost room tokens ∧ Delivers s tokens left

theorem Spells.joined {room : Nat} {s t u left : ReadState} {op : Operator}
    (h : Spells settings room .operand s t) (hop : Takes t (.operator op) u)
    (h' : Spells settings room .expression u left) : Spells settings room .expression s left := by
  obtain ⟨tokens, hd, ho, hs⟩ := h
  obtain ⟨others, hd', ho', hs'⟩ := h'
  refine ⟨tokens ++ .operator op :: others, .joined hd hd',
    hd.openAtMost_joined.2 ⟨ho, ho'⟩, ?_⟩
  exact hs.trans ((hop.delivers (by simp)).trans hs')

variable [Pattern.Engine]

/-- What a part of the grammar is read as: an operand, or a chain of operators. -/
def Reads (settings : Settings Q) (room : Nat) : Nonterminal → ReadState → ReadState → Prop
  | .operand, s, left => ∃ e, (operandReader settings room).run s = .ok e left
  | .expression, s, left =>
    ∃ first steps, ReadsChain (operandReader settings room) s first steps left

theorem spells_of_isLeaf {room : Nat} {s t left : ReadState} {token : Token} {e : Expr Q}
    (hn : Takes s token t) (hl : IsLeaf settings token e) (ht : left.tokens = t.tokens) :
    Spells settings room .operand s left := by
  have hc := converts_of_isLeaf hl
  refine ⟨[token], .leaf hc, openAtMost_singleton room ?_, ?_⟩
  · rintro rfl
    exact hc
  · exact (hn.delivers hc.ne_endOfInput).of_tokens ht

theorem spells_of_readsSteps {room : Nat} {operand : Reader Q (Expr Q)}
    (hop : ∀ {s left e}, operand.run s = .ok e left → Spells settings room .operand s left)
    {s left : ReadState} {steps : Steps Q} (h : ReadsSteps operand s steps left) :
    ∀ {start}, Spells settings room .operand start s →
      Spells settings room .expression start left := by
  induction h with
  | stop s =>
    rintro start ⟨tokens, hd, ho, hs⟩
    exact ⟨tokens, .alone hd, ho, hs⟩
  | step hn hr _ ih =>
    intro start hs
    exact hs.joined hn (ih (hop hr))

theorem spells_of_readsChain {room : Nat} {operand : Reader Q (Expr Q)}
    (hop : ∀ {s left e}, operand.run s = .ok e left → Spells settings room .operand s left)
    {s left : ReadState} {first : Expr Q} {steps : Steps Q}
    (h : ReadsChain operand s first steps left) : Spells settings room .expression s left := by
  obtain ⟨t, hf, hs⟩ := h
  exact spells_of_readsSteps hop hs (hop hf)

theorem spells_of_operandReader (room : Nat) {s left : ReadState} {e : Expr Q}
    (h : (operandReader settings room).run s = .ok e left) :
    Spells settings room .operand s left := by
  induction room generalizing s left e with
  | zero =>
    rw [run_operandReader_zero] at h
    rcases readOperand_eq_ok h with ⟨token, t, hn, hl, ht⟩ | ⟨_, _, _, _, hi, _⟩
    · exact spells_of_isLeaf hn hl (ht ▸ rfl)
    · cases hi
  | succ room ih =>
    rw [run_operandReader_succ] at h
    rcases readOperand_eq_ok h with ⟨token, t, hn, hl, ht⟩ | ⟨inner, tree, t, u, hi, hn, hr, hc, -⟩
    · exact spells_of_isLeaf hn hl (ht ▸ rfl)
    · cases hi
      obtain ⟨first, steps, v, hchain, he, -⟩ := readExpression_eq_ok_iff.1 hr
      obtain ⟨tokens, hd, ho, hs⟩ := spells_of_readsChain ih hchain
      refine ⟨_, .group hd, hd.openAtMost_group.2 ho, ?_⟩
      have hclose := he.delivers.trans (hc.delivers (by simp))
      exact (hn.delivers (by simp)).trans (hs.trans hclose)

/-- **What is read is derived**, and just its tokens are taken. -/
theorem derives_of_reads {room : Nat} {n : Nonterminal} {s left : ReadState}
    (h : Reads settings room n s left) : Spells settings room n s left := by
  cases n with
  | operand =>
    obtain ⟨e, hr⟩ := h
    exact spells_of_operandReader room hr
  | expression =>
    obtain ⟨first, steps, hc⟩ := h
    exact spells_of_readsChain (spells_of_operandReader room) hc

/-! ### What is derived is read -/

/-- A token that stands for an operand is read as one, and the stream goes on. -/
theorem run_operandReader_of_isLeaf {token : Token} {e : Expr Q} (hl : IsLeaf settings token e)
    {room : Nat} {s : ReadState} {rest : List Token} (hs : Streams s.tokens (token :: rest)) :
    ∃ left, (operandReader settings room).run s = .ok e left ∧ Streams left.tokens rest := by
  obtain ⟨t, hn, ht⟩ := takes_of_streams hs
  obtain ⟨left, hr, hleft⟩ := run_operandReader_leaf room hn hl
  exact ⟨left, hr, hleft ▸ ht (converts_of_isLeaf hl).ne_endOfInput⟩

/-- A chain of operators in parentheses is read as a group, and the stream goes on. -/
theorem run_operandReader_group {room : Nat} {s t u : ReadState} {first : Expr Q} {steps : Steps Q}
    {rest : List Token} (hn : Takes s .leftParen t)
    (hc : ReadsChain (operandReader settings room) t first steps u)
    (hu : Streams u.tokens (.rightParen :: rest)) :
    ∃ left, (operandReader settings (room + 1)).run s =
        .ok (.group (insertAll settings.precedence first steps)) left ∧
          Streams left.tokens rest := by
  obtain ⟨v, he, hv⟩ := endsAt_of_streams hu rfl
  obtain ⟨left, hclose, hleft⟩ := takes_of_streams hv
  have hr : readExpression settings (operandReader settings room) t = .ok _ v :=
    readExpression_eq_ok_iff.2 ⟨first, steps, u, hc, he, rfl⟩
  exact ⟨left, readOperand_group hn hr hclose, hleft (by simp)⟩

/-- **What is derived is read**, and what follows it is left. -/
theorem reads_of_derives {n : Nonterminal} {tokens : List Token} (h : Derives settings n tokens) :
    ∀ {room s rest}, OpenAtMost room tokens → Streams s.tokens (tokens ++ rest) →
      ∃ left, Reads settings room n s left ∧ Streams left.tokens rest := by
  induction h with
  | @leaf token hc =>
    intro room s rest _ hs
    obtain ⟨e, hl⟩ := exists_isLeaf hc (by rintro text rfl; exact hs.ofText?_isSome)
    obtain ⟨left, hr, hleft⟩ := run_operandReader_of_isLeaf hl hs
    exact ⟨left, ⟨e, hr⟩, hleft⟩
  | @group tokens hd ih =>
    intro room s rest ho hs
    cases room with
    | zero => exact absurd ho (not_openAtMost_zero _)
    | succ room =>
      rw [List.cons_append, List.append_assoc] at hs
      obtain ⟨t, hn, ht⟩ := takes_of_streams hs
      obtain ⟨u, ⟨first, steps, hc⟩, hu⟩ := ih (hd.openAtMost_group.1 ho) (ht (by simp))
      obtain ⟨left, hr, hleft⟩ := run_operandReader_group hn hc hu
      exact ⟨left, ⟨_, hr⟩, hleft⟩
  | alone _ ih =>
    intro room s rest ho hs
    obtain ⟨left, ⟨e, hr⟩, hleft⟩ := ih ho hs
    exact ⟨left, ⟨e, [], left, hr, .stop left⟩, hleft⟩
  | @joined tokens others op hd _ ih ih' =>
    intro room s rest ho hs
    obtain ⟨ho, ho'⟩ := hd.openAtMost_joined.1 ho
    rw [List.append_assoc, List.cons_append] at hs
    obtain ⟨t, ⟨e, hr⟩, ht⟩ := ih ho hs
    obtain ⟨u, hn, hu⟩ := takes_of_streams ht
    obtain ⟨left, ⟨first, steps, v, hf, hsteps⟩, hleft⟩ := ih' ho' (hu (by simp))
    exact ⟨left, ⟨e, _, t, hr, .step hn hf hsteps⟩, hleft⟩

end Condition.Expr
