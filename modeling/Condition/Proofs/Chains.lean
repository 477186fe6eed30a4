import Condition.Proofs.Grouping
import Condition.Proofs.Operands
import Condition.Proofs.Readings
import Mathlib.Logic.ExistsUnique

/-! # Reading chains of operators

A reading of an expression takes an operand, and then operators with their right operands
(`ReadsChain`), until a token ends the expression and is put back (`EndsAt`) or a token stands there
that does neither (`TrailsAt`).

* `readOperators_of_readsSteps`: behind the operators read so far, the loop goes on with the tree
  into which they are inserted.
* `readOperators_cases`: what the loop may come to.
* `ofText_precedence`: how levels are found makes no difference to a reading.
* `tree_of_readExpression`: the tree that is read is the tree of the grammar for the chain. -/

namespace Condition.Expr

open Reading

variable [Pattern.Engine] {Q : Type} {settings : Settings Q} {operand : Reader Q (Expr Q)}

/-! ### Chains as they are read -/

/-- **The operators that are read** from a state on, each with its right operand. -/
inductive ReadsSteps (operand : Reader Q (Expr Q)) : ReadState → Steps Q → ReadState → Prop where
  | stop (s : ReadState) : ReadsSteps operand s [] s
  | step {s t u left : ReadState} {op : Operator} {right : Expr Q} {steps : Steps Q}
    (hn : Takes s (.operator op) t) (hr : operand.run t = .ok right u)
    (h : ReadsSteps operand u steps left) :
    ReadsSteps operand s ((op, asRightOperand op right) :: steps) left

/-- A first operand is read from a state on, and then operators with their right operands. -/
def ReadsChain (operand : Reader Q (Expr Q)) (s : ReadState) (first : Expr Q) (steps : Steps Q)
    (left : ReadState) : Prop :=
  ∃ t, operand.run s = .ok first t ∧ ReadsSteps operand t steps left

/-- The next token ends an expression; it is put back. -/
def EndsAt (s left : ReadState) : Prop :=
  ∃ token t, Takes s token t ∧ token.endsExpression = true ∧ PutsBack t left

/-- The next token neither ends an expression nor goes on with it. -/
def TrailsAt (s : ReadState) (found : Token) (left : ReadState) : Prop :=
  Takes s found left ∧ found.endsExpression = false ∧ ∀ op, found ≠ .operator op

/-! ### The loop over operators -/

/-- One round of the loop. -/
theorem readOperators_eq (tree : Expr Q) (s : ReadState) : readOperators settings operand tree s =
    match (nextToken : Reading Q Token) s with
    | .error e t => .error e t
    | .ok .endOfInput t => (do putBack; return tree : Reading Q (Expr Q)) t
    | .ok .leftParen t => (do putBack; return tree : Reading Q (Expr Q)) t
    | .ok .rightParen t => (do putBack; return tree : Reading Q (Expr Q)) t
    | .ok (.operator op) t =>
      match within .rightOperand operand.run t with
      | .error e u => .error e u
      | .ok right u => readOperators settings operand
          (tree.insert settings.precedence op (asRightOperand op right)) u
    | .ok token t => fail (.trailingToken token tree) t := by
  rw [readOperators]
  split
  case h_5 hn =>
    simp only [hn]
    split
    next hr => simp only [hr]
    next hr => simp only [hr]
  all_goals
    rename_i hn
    simp only [hn]

theorem readOperators_step (tree : Expr Q) {s t u : ReadState} {op : Operator} {right : Expr Q}
    (hn : Takes s (.operator op) t) (hr : operand.run t = .ok right u) :
    readOperators settings operand tree s = readOperators settings operand
      (tree.insert settings.precedence op (asRightOperand op right)) u := by
  have hn' := nextToken_eq_ok_iff (Q := Q) |>.2 hn
  have hr' : within .rightOperand operand.run t = .ok right u := within_eq_ok.2 hr
  rw [readOperators_eq]
  simp only [hn', hr']

/-- **Behind operators** that were read, the loop goes on with the tree into which they are
inserted. -/
theorem readOperators_of_readsSteps {s t : ReadState} {steps : Steps Q}
    (h : ReadsSteps operand s steps t) (tree : Expr Q) :
    readOperators settings operand tree s =
      readOperators settings operand (insertAll settings.precedence tree steps) t := by
  induction h generalizing tree with
  | stop => rfl
  | step hn hr _ ih => rw [readOperators_step tree hn hr, ih, insertAll_cons]

theorem readOperators_endsAt (tree : Expr Q) {s left : ReadState} (h : EndsAt s left) :
    readOperators settings operand tree s = .ok tree left := by
  obtain ⟨token, t, hn, he, hp⟩ := h
  have hn' := nextToken_eq_ok_iff (Q := Q) |>.2 hn
  have hback : (do putBack; return tree : Reading Q (Expr Q)) t = .ok tree left :=
    bind_eq_ok.2 ⟨(), left, putBack_eq_ok_iff.2 hp, rfl⟩
  rw [readOperators_eq]
  cases token with
  | endOfInput | leftParen | rightParen => simp only [hn']; exact hback
  | _ => cases he

theorem readOperators_trailsAt (tree : Expr Q) {s left : ReadState} {found : Token}
    (h : TrailsAt s found left) : readOperators settings operand tree s =
      .error (Failure.ofCause (.trailingToken found tree)) left := by
  obtain ⟨hn, he, ho⟩ := h
  have hn' := nextToken_eq_ok_iff (Q := Q) |>.2 hn
  rw [readOperators_eq]
  cases found with
  | endOfInput | leftParen | rightParen => cases he
  | operator op => exact absurd rfl (ho op)
  | _ => simp only [hn']; rfl

/-- An error that comes from an operand or from the text itself, and not from the token behind a
whole expression. -/
def IsInner (failure : ReadFailure Q) : Prop :=
  failure.contexts ≠ [] ∨ ∃ error, failure.cause = .lex error

theorem isInner_within {α : Type} {context : Context} {read : Reading Q α} {s left : ReadState}
    {failure : ReadFailure Q} (h : within context read s = .error failure left) :
    IsInner failure := by
  unfold within at h
  split at h
  · cases h
  · cases h
    exact .inl (List.cons_ne_nil _ _)

/-- A token that ends an expression can be put back, unless an error occurs inside. -/
theorem endsAt_or_isInner {s t : ReadState} {token : Token} (tree : Expr Q) (hn : Takes s token t)
    (he : token.endsExpression = true) :
    (∃ left, EndsAt s left ∧ (do putBack; return tree : Reading Q (Expr Q)) t = .ok tree left) ∨
      ∃ failure left, IsInner failure ∧
        (do putBack; return tree : Reading Q (Expr Q)) t = .error failure left := by
  cases hp : (putBack : Reading Q Unit) t with
  | ok _ left =>
    exact .inl ⟨left, ⟨token, t, hn, he, putBack_eq_ok_iff.1 hp⟩,
      bind_eq_ok.2 ⟨(), left, hp, rfl⟩⟩
  | error failure left =>
    refine .inr ⟨failure, left, ?_, bind_eq_error.2 (.inl hp)⟩
    unfold putBack onTokens at hp
    split at hp
    · cases hp
    · cases hp
      exact .inr ⟨_, rfl⟩

/-- **What the loop comes to**: behind the operators it reads, the expression ends, or a token
stands there that it refuses, or an error occurs inside. -/
theorem readOperators_cases (settings : Settings Q) (operand : Reader Q (Expr Q)) (tree : Expr Q)
    (s : ReadState) : ∃ steps t, ReadsSteps operand s steps t ∧
      ((∃ left, EndsAt t left ∧ readOperators settings operand tree s =
          .ok (insertAll settings.precedence tree steps) left) ∨
        (∃ found left, TrailsAt t found left ∧ readOperators settings operand tree s =
          .error (.ofCause (.trailingToken found (insertAll settings.precedence tree steps)))
          left) ∨
        ∃ failure left, IsInner failure ∧
          readOperators settings operand tree s = .error failure left) := by
  fun_induction readOperators settings operand tree s with
  | case1 tree s failure t hn =>
    obtain ⟨error, rfl, -⟩ := nextToken_eq_error hn
    exact ⟨[], s, .stop s, .inr (.inr ⟨_, t, .inr ⟨error, rfl⟩, rfl⟩)⟩
  | case2 tree s t hn =>
    refine ⟨[], s, .stop s, ?_⟩
    exact (endsAt_or_isInner tree (nextToken_eq_ok_iff.1 hn) rfl).imp_right .inr
  | case3 tree s t hn =>
    refine ⟨[], s, .stop s, ?_⟩
    exact (endsAt_or_isInner tree (nextToken_eq_ok_iff.1 hn) rfl).imp_right .inr
  | case4 tree s t hn =>
    refine ⟨[], s, .stop s, ?_⟩
    exact (endsAt_or_isInner tree (nextToken_eq_ok_iff.1 hn) rfl).imp_right .inr
  | case5 tree s op t hn failure u hr =>
    exact ⟨[], s, .stop s, .inr (.inr ⟨_, u, isInner_within hr, rfl⟩)⟩
  | case6 tree s op t hn right u hr ih =>
    obtain ⟨steps, v, hs, h⟩ := ih
    exact ⟨_, v, .step (nextToken_eq_ok_iff.1 hn) (within_eq_ok.1 hr) hs, h⟩
  | case7 tree s token t h₁ h₂ h₃ h₄ hn =>
    refine ⟨[], s, .stop s, .inr (.inl ⟨token, t, ⟨nextToken_eq_ok_iff.1 hn, ?_, ?_⟩, rfl⟩)⟩
    · cases token <;> first | rfl | contradiction
    · exact h₄

/-! ### Expressions -/

/-- An expression is read where a chain of operators stands in front of a token that ends it. -/
theorem readExpression_eq_ok_iff {s left : ReadState} {tree : Expr Q} :
    readExpression settings operand s = .ok tree left ↔
      ∃ first steps t, ReadsChain operand s first steps t ∧ EndsAt t left ∧
        tree = insertAll settings.precedence first steps := by
  constructor
  · intro h
    obtain ⟨first, t, hf, h⟩ := bind_eq_ok.1 h
    obtain ⟨steps, u, hs, hc⟩ := readOperators_cases settings operand first t
    refine ⟨first, steps, u, ⟨t, within_eq_ok.1 hf, hs⟩, ?_⟩
    rcases hc with ⟨left', he, hr⟩ | ⟨found, left', -, hr⟩ | ⟨failure, left', -, hr⟩
    · rw [h, EStateM.Result.ok.injEq] at hr
      obtain ⟨rfl, rfl⟩ := hr
      exact ⟨he, rfl⟩
    · rw [h] at hr; cases hr
    · rw [h] at hr; cases hr
  · rintro ⟨first, steps, t, ⟨u, hf, hs⟩, he, rfl⟩
    refine bind_eq_ok.2 ⟨first, u, within_eq_ok.2 hf, ?_⟩
    rw [readOperators_of_readsSteps hs, readOperators_endsAt _ he]

/-- An expression is refused with a partial tree where a chain of operators stands in front of a
token that neither ends it nor goes on with it. -/
theorem readExpression_eq_trailing_iff {s left : ReadState} {found : Token} {tree : Expr Q} :
    readExpression settings operand s = .error (.ofCause (.trailingToken found tree)) left ↔
      ∃ first steps t, ReadsChain operand s first steps t ∧ TrailsAt t found left ∧
        tree = insertAll settings.precedence first steps := by
  have outer : ¬ IsInner (.ofCause (.trailingToken found tree) : ReadFailure Q) := by
    rintro (h | ⟨_, h⟩)
    · exact h rfl
    · cases h
  constructor
  · intro h
    rcases bind_eq_error.1 h with h | ⟨first, t, hf, h⟩
    · exact absurd (isInner_within h) outer
    · obtain ⟨steps, u, hs, hc⟩ := readOperators_cases settings operand first t
      refine ⟨first, steps, u, ⟨t, within_eq_ok.1 hf, hs⟩, ?_⟩
      rcases hc with ⟨left', -, hr⟩ | ⟨found', left', ht, hr⟩ | ⟨failure, left', hi, hr⟩
      · rw [h] at hr; cases hr
      · rw [h] at hr; cases hr
        exact ⟨ht, rfl⟩
      · rw [h] at hr; cases hr
        exact absurd hi outer
  · rintro ⟨first, steps, t, ⟨u, hf, hs⟩, ht, rfl⟩
    refine bind_eq_error.2 (.inr ⟨first, u, within_eq_ok.2 hf, ?_⟩)
    rw [readOperators_of_readsSteps hs, readOperators_trailsAt _ ht]

/-! ### Precedences -/

theorem Reader.eq_of_run {α : Type} {a b : Reader Q α} (h : a.run = b.run) : a = b := by
  cases a
  cases b
  cases h
  rfl

theorem readOperators_precedence (a b : Precedence) (tree : Expr Q) (s : ReadState) :
    readOperators { settings with precedence := a } operand tree s =
      readOperators { settings with precedence := b } operand tree s := by
  fun_induction readOperators { settings with precedence := a } operand tree s with
  | case6 tree s op t hn right u hr ih =>
    rw [ih, readOperators_step tree (nextToken_eq_ok_iff.1 hn) (within_eq_ok.1 hr)]
    exact congrArg (readOperators _ operand · u) (insert_precedence a b tree op _)
  | case5 tree s op t hn failure u hr =>
    rw [readOperators_eq]
    simp only [hn, hr]
  | _ =>
    rw [readOperators_eq]
    simp only [*]

theorem readExpression_precedence (a b : Precedence) :
    readExpression { settings with precedence := a } operand =
      readExpression { settings with precedence := b } operand := by
  have h : readOperators { settings with precedence := a } operand =
      readOperators { settings with precedence := b } operand :=
    funext fun tree => funext fun s => readOperators_precedence a b tree s
  unfold readExpression
  rw [h]

variable [Json.Parser]

theorem operandReader_precedence (a b : Precedence) (room : Nat) :
    operandReader { settings with precedence := a } room =
      operandReader { settings with precedence := b } room := by
  induction room with
  | zero => rfl
  | succ room ih =>
    refine Reader.eq_of_run ?_
    rw [run_operandReader_succ, run_operandReader_succ, ih, readExpression_precedence a b]
    rfl

/-- **How levels are found** makes no difference to what a text is read as. -/
theorem ofText_precedence (settings : Settings Q) (a b : Precedence) (text : Text) :
    ofText { settings with precedence := a } text =
      ofText { settings with precedence := b } text := by
  simp only [ofText, condition, expression, operandReader_precedence a b,
    readExpression_precedence a b]

/-! ### The tree that is read -/

theorem ReadsSteps.operandsOnly {room : Nat} {s left : ReadState} {steps : Steps Q}
    (h : ReadsSteps (operandReader settings room) s steps left) : OperandsOnly steps := by
  induction h with
  | stop => intro step hs; cases hs
  | step _ hr _ ih =>
    intro step hs
    rcases List.mem_cons.mp hs with rfl | hs
    · exact isBinary_asRightOperand (isBinary_operandReader hr)
    · exact ih step hs

theorem isDisjunction_of_readsChain {room : Nat} {s left : ReadState} {first : Expr Q}
    {steps : Steps Q} (h : ReadsChain (operandReader settings room) s first steps left) :
    IsDisjunction first steps (insertAll settings.precedence first steps) := by
  obtain ⟨t, hf, hs⟩ := h
  exact isDisjunction_insertAll _ (isBinary_operandReader hf) hs.operandsOnly

/-- **The tree that is read.** An expression is read just where a chain of operators stands in front
of a token that ends it, and refused with a partial tree just where the token behind the chain
neither ends it nor goes on with it. The tree in both cases is the one tree that the grammar has for
the chain, which is to say the ordered one, whatever way levels are found. -/
theorem tree_of_readExpression (settings : Settings Q) (room : Nat) :
    (∀ s tree left, readExpression settings (operandReader settings room) s = .ok tree left ↔
      ∃ first steps t, ReadsChain (operandReader settings room) s first steps t ∧ EndsAt t left ∧
        IsDisjunction first steps tree) ∧
    (∀ s found tree left, readExpression settings (operandReader settings room) s =
        .error (.ofCause (.trailingToken found tree)) left ↔
      ∃ first steps t, ReadsChain (operandReader settings room) s first steps t ∧
        TrailsAt t found left ∧ IsDisjunction first steps tree) ∧
    (∀ s first steps t, ReadsChain (operandReader settings room) s first steps t →
      ∃! tree, IsDisjunction first steps tree) ∧
    (∀ p (first : Expr Q) steps tree,
      IsDisjunction first steps tree ↔ chain tree = (first, steps) ∧ Ordered p tree) ∧
    ∀ p q text, ofText { settings with precedence := p } text =
      ofText { settings with precedence := q } text := by
  have tree_iff : ∀ {s first steps t tree},
      ReadsChain (operandReader settings room) s first steps t →
        (tree = insertAll settings.precedence first steps ↔ IsDisjunction first steps tree) :=
    fun hc => ⟨fun h => h ▸ isDisjunction_of_readsChain hc,
      fun h => h.unique (isDisjunction_of_readsChain hc)⟩
  refine ⟨fun s tree left => ?_, fun s found tree left => ?_, fun s first steps t hc => ?_,
    fun p first steps tree => isDisjunction_iff p, ofText_precedence settings⟩
  · rw [readExpression_eq_ok_iff]
    constructor
    · rintro ⟨first, steps, t, hc, he, ht⟩
      exact ⟨first, steps, t, hc, he, (tree_iff hc).mp ht⟩
    · rintro ⟨first, steps, t, hc, he, ht⟩
      exact ⟨first, steps, t, hc, he, (tree_iff hc).mpr ht⟩
  · rw [readExpression_eq_trailing_iff]
    constructor
    · rintro ⟨first, steps, t, hc, he, ht⟩
      exact ⟨first, steps, t, hc, he, (tree_iff hc).mp ht⟩
    · rintro ⟨first, steps, t, hc, he, ht⟩
      exact ⟨first, steps, t, hc, he, (tree_iff hc).mpr ht⟩
  · exact ⟨_, isDisjunction_of_readsChain hc, fun tree h =>
      h.unique (isDisjunction_of_readsChain hc)⟩

end Condition.Expr
