import Condition.Expr.Basic

/-! # How operators group

The *chain* of a tree lists its operands and the operators between them from left to right; what
stands in a group belongs to the operand (`chain`). A tree is *ordered* if every operator binds no
tighter than the one on its left and looser than the one on its right (`Ordered`).

The grammar of conditions has three rungs, and each joins parts of the rung below from the left
(`LeftJoined`): comparisons join operands, conjunctions join comparisons, and disjunctions join
conjunctions.

* `chain_insert`, `ordered_insert`: inserting an operator puts it at the end of the chain and keeps
  the tree ordered.
* `insertAll_chain`: an ordered tree is what insertion makes of its chain, so the chain determines
  it (`eq_of_chain_eq`).
* `isDisjunction_iff`: the trees of the grammar are the ordered ones. -/

namespace Condition

/-! ### Levels -/

namespace Operator

/-- The operators that join conjunctions. -/
def isDisjunctive : Operator → Bool
  | .or | .xor => true
  | _ => false

/-- The operators that join comparisons. -/
def isConjunctive : Operator → Bool
  | .and | .nand => true
  | _ => false

/-- The operators that join operands. -/
def isComparative : Operator → Bool
  | .equal | .notEqual | .less | .atMost | .greater | .atLeast => true
  | .matching | .notMatching | .member | .notMember => true
  | _ => false

end Operator

namespace Precedence

theorem one_le_level (p : Precedence) (op : Operator) : 1 ≤ p.level op := by
  cases p <;> cases op <;> decide

theorem level_le_three (p : Precedence) (op : Operator) : p.level op ≤ 3 := by
  cases p <;> cases op <;> decide

theorem isDisjunctive_iff (p : Precedence) (op : Operator) :
    op.isDisjunctive = true ↔ p.level op = 1 := by
  cases p <;> cases op <;> decide

theorem isConjunctive_iff (p : Precedence) (op : Operator) :
    op.isConjunctive = true ↔ p.level op = 2 := by
  cases p <;> cases op <;> decide

theorem isComparative_iff (p : Precedence) (op : Operator) :
    op.isComparative = true ↔ p.level op = 3 := by
  cases p <;> cases op <;> decide

end Precedence

namespace Expr

variable [Pattern.Engine] {Q : Type}

/-! ### Chains and ordered trees -/

/-- The first operand of a tree, and its operators with the operands behind them, from left to
right. -/
def chain : Expr Q → Expr Q × Steps Q
  | .binary op left right =>
    ((chain left).1, (chain left).2 ++ (op, (chain right).1) :: (chain right).2)
  | operand => (operand, [])

/-- How tight the outermost operator of a tree binds; an operand holds tighter than every
operator. -/
def tightness (p : Precedence) : Expr Q → Nat
  | .binary op _ _ => p.level op
  | _ => 4

/-- **Ordered trees**: below an operator, the left one binds as tight or tighter, and the right one
tighter. -/
def Ordered (p : Precedence) : Expr Q → Prop
  | .binary op left right =>
    p.level op ≤ tightness p left ∧ p.level op < tightness p right ∧ Ordered p left ∧
      Ordered p right
  | _ => True

theorem chain_of_operand {e : Expr Q} (h : e.isBinary = false) : chain e = (e, []) := by
  cases e <;> first | rfl | cases h

theorem tightness_of_operand {e : Expr Q} (p : Precedence) (h : e.isBinary = false) :
    tightness p e = 4 := by
  cases e <;> first | rfl | cases h

theorem ordered_of_operand {e : Expr Q} (p : Precedence) (h : e.isBinary = false) :
    Ordered p e := by
  cases e <;> first | exact trivial | cases h

theorem one_le_tightness (p : Precedence) (e : Expr Q) : 1 ≤ tightness p e := by
  unfold tightness
  split
  · exact p.one_le_level _
  · omega

theorem isBinary_eq_false_iff {p : Precedence} {e : Expr Q} :
    e.isBinary = false ↔ 4 ≤ tightness p e := by
  constructor
  · intro h
    exact Nat.le_of_eq (tightness_of_operand p h).symm
  · intro h
    cases e with
    | binary op left right =>
      have := p.level_le_three op
      simp only [tightness] at h
      omega
    | _ => rfl

/-- Every operator of an ordered tree binds as tight as the outermost one, or tighter. -/
theorem tightness_le_of_mem {p : Precedence} {e : Expr Q} (h : Ordered p e) :
    ∀ step ∈ (chain e).2, tightness p e ≤ p.level step.1 := by
  induction e with
  | binary op left right ihl ihr =>
    obtain ⟨hl, hr, hol, hor⟩ := h
    intro step hs
    simp only [chain, List.mem_append, List.mem_cons] at hs
    simp only [tightness]
    rcases hs with hs | rfl | hs
    · exact Nat.le_trans hl (ihl hol step hs)
    · exact Nat.le_refl _
    · exact Nat.le_trans (Nat.le_of_lt hr) (ihr hor step hs)
  | _ => intro step hs; cases hs

/-! ### Inserting an operator -/

/-- What joins the parts of an operator joins those of a tree and the operand that is inserted. -/
theorem join_insert {α : Type} {f : Expr Q → α} {join : α → α → α}
    (hassoc : ∀ a b c, join (join a b) c = join a (join b c))
    (hf : ∀ op left right, f (.binary op left right) = join (f left) (f right)) (p : Precedence)
    (tree : Expr Q) (op : Operator) (right : Expr Q) :
    f (tree.insert p op right) = join (f tree) (f right) := by
  induction tree with
  | binary other left last _ ih =>
    rw [insert]
    split
    · rw [hf, ih, hf, hassoc]
    · exact hf ..
  | _ => exact hf ..

/-- **Insertion adds to the end of the chain.** -/
theorem chain_insert (p : Precedence) (tree : Expr Q) (op : Operator) (right : Expr Q) :
    chain (insert p tree op right) =
      ((chain tree).1, (chain tree).2 ++ (op, (chain right).1) :: (chain right).2) := by
  induction tree with
  | binary other left last _ ih =>
    simp only [insert]
    split
    · simp only [chain, ih, List.append_assoc, List.cons_append]
    · simp only [chain]
  | _ => simp only [insert, chain, List.nil_append]

theorem tightness_insert (p : Precedence) (tree : Expr Q) (op : Operator) (right : Expr Q) :
    tightness p (insert p tree op right) = min (tightness p tree) (p.level op) := by
  have h3 := p.level_le_three op
  cases tree with
  | binary other left last =>
    simp only [insert]
    split
    · simp only [tightness]; omega
    · simp only [tightness]; omega
  | _ => simp only [insert, tightness]; omega

/-- **Insertion keeps a tree ordered.** -/
theorem ordered_insert {p : Precedence} {tree : Expr Q} (h : Ordered p tree) (op : Operator)
    {right : Expr Q} (hr : right.isBinary = false) : Ordered p (insert p tree op right) := by
  have htight := tightness_of_operand p hr
  have hord := ordered_of_operand p hr
  have h3 := p.level_le_three op
  induction tree with
  | binary other left last _ ih =>
    obtain ⟨hl, hlast, hol, holast⟩ := h
    simp only [insert]
    split
    · refine ⟨hl, ?_, hol, ih holast⟩
      rw [tightness_insert]; omega
    · refine ⟨?_, by omega, ⟨hl, hlast, hol, holast⟩, hord⟩
      simp only [tightness]; omega
  | _ => exact ⟨by simp only [tightness]; omega, by omega, trivial, hord⟩

/-- The operator goes on top of a tree that binds as tight as it does. -/
theorem insert_of_level_le {p : Precedence} {tree : Expr Q} {op : Operator}
    (h : p.level op ≤ tightness p tree) (right : Expr Q) :
    insert p tree op right = .binary op tree right := by
  cases tree with
  | binary other left last =>
    simp only [tightness] at h
    simp only [insert, if_neg (Nat.not_lt.mpr h)]
  | _ => rfl

/-- The tree does not depend on how levels are found. -/
theorem insert_precedence (a b : Precedence) (tree : Expr Q) (op : Operator) (right : Expr Q) :
    insert a tree op right = insert b tree op right := by
  induction tree with
  | binary other left last _ ih =>
    simp only [insert, ih, Precedence.level_eq a b]
  | _ => rfl

/-! ### Inserting a chain -/

/-- A tree with operators and their operands inserted one after the other. -/
def insertAll (p : Precedence) (tree : Expr Q) (steps : Steps Q) : Expr Q :=
  steps.foldl (fun tree step => insert p tree step.1 step.2) tree

theorem insertAll_cons (p : Precedence) (tree : Expr Q) (op : Operator) (right : Expr Q)
    (steps : Steps Q) :
    insertAll p tree ((op, right) :: steps) = insertAll p (insert p tree op right) steps := rfl

theorem insertAll_append (p : Precedence) (tree : Expr Q) (steps more : Steps Q) :
    insertAll p tree (steps ++ more) = insertAll p (insertAll p tree steps) more :=
  List.foldl_append

/-- The operands behind operators are no operators themselves. -/
def OperandsOnly (steps : Steps Q) : Prop := ∀ step ∈ steps, step.2.isBinary = false

theorem chain_insertAll (p : Precedence) (tree : Expr Q) {steps : Steps Q}
    (hs : OperandsOnly steps) :
    chain (insertAll p tree steps) = ((chain tree).1, (chain tree).2 ++ steps) := by
  induction steps generalizing tree with
  | nil => simp [insertAll]
  | cons step steps ih =>
    obtain ⟨op, right⟩ := step
    rw [insertAll_cons, ih _ fun other h => hs other (List.mem_cons_of_mem _ h),
      chain_insert, chain_of_operand (hs (op, right) (by simp))]
    simp

theorem ordered_insertAll {p : Precedence} {tree : Expr Q} (h : Ordered p tree) {steps : Steps Q}
    (hs : OperandsOnly steps) : Ordered p (insertAll p tree steps) := by
  induction steps generalizing tree with
  | nil => exact h
  | cons step steps ih =>
    rw [insertAll_cons]
    exact ih (ordered_insert h _ (hs step (by simp))) fun other h =>
      hs other (List.mem_cons_of_mem _ h)

/-- Operators that bind tighter than the outermost one go below it on the right. -/
theorem insertAll_binary {p : Precedence} {op : Operator} (left right : Expr Q) {steps : Steps Q}
    (h : ∀ step ∈ steps, p.level op < p.level step.1) :
    insertAll p (.binary op left right) steps = .binary op left (insertAll p right steps) := by
  induction steps generalizing right with
  | nil => rfl
  | cons step steps ih =>
    obtain ⟨other, last⟩ := step
    have hlt := h (other, last) (by simp)
    rw [insertAll_cons, insertAll_cons, insert, if_pos hlt]
    exact ih _ fun step hs => h step (List.mem_cons_of_mem _ hs)

/-- **An ordered tree is what insertion makes of its chain.** -/
theorem insertAll_chain {p : Precedence} {e : Expr Q} (h : Ordered p e) :
    insertAll p (chain e).1 (chain e).2 = e := by
  induction e with
  | binary op left right ihl ihr =>
    obtain ⟨hl, hr, hol, hor⟩ := h
    have hlt : ∀ step ∈ (chain right).2, p.level op < p.level step.1 := fun step hs =>
      Nat.lt_of_lt_of_le hr (tightness_le_of_mem hor step hs)
    simp only [chain]
    rw [insertAll_append, ihl hol, insertAll_cons, insert_of_level_le hl, insertAll_binary _ _ hlt,
      ihr hor]
  | _ => rfl

/-- **The chain of an ordered tree determines it.** -/
theorem eq_of_chain_eq {p : Precedence} {a b : Expr Q} (ha : Ordered p a) (hb : Ordered p b)
    (h : chain a = chain b) : a = b := by
  rw [← insertAll_chain ha, ← insertAll_chain hb, h]

/-! ### The grammar -/

/-- **Joining from the left**: `part (op part)*`, with the chains of the parts in one. The tree of
the parts so far is the left operand of the next operator. -/
inductive LeftJoined (joins : Operator → Prop) (part : Expr Q → Steps Q → Expr Q → Prop) :
    Expr Q → Steps Q → Expr Q → Prop where
  | single {first : Expr Q} {steps : Steps Q} {tree : Expr Q} (h : part first steps tree) :
    LeftJoined joins part first steps tree
  | more {first second left right : Expr Q} {steps behind : Steps Q} {op : Operator}
    (hl : LeftJoined joins part first steps left) (hop : joins op) (hr : part second behind right) :
    LeftJoined joins part first (steps ++ (op, second) :: behind) (.binary op left right)

/-- An operand on its own. -/
def IsOperand (first : Expr Q) (steps : Steps Q) (tree : Expr Q) : Prop :=
  tree.isBinary = false ∧ first = tree ∧ steps = []

/-- `operand (comparison operand)*` -/
def IsComparison : Expr Q → Steps Q → Expr Q → Prop :=
  LeftJoined (fun op => op.isComparative = true) IsOperand

/-- `comparison ((AND | NAND) comparison)*` -/
def IsConjunction : Expr Q → Steps Q → Expr Q → Prop :=
  LeftJoined (fun op => op.isConjunctive = true) IsComparison

/-- `conjunction ((OR | XOR) conjunction)*` -/
def IsDisjunction : Expr Q → Steps Q → Expr Q → Prop :=
  LeftJoined (fun op => op.isDisjunctive = true) IsConjunction

theorem isOperand_iff (p : Precedence) {first tree : Expr Q} {steps : Steps Q} :
    IsOperand first steps tree ↔
      chain tree = (first, steps) ∧ Ordered p tree ∧ 4 ≤ tightness p tree := by
  constructor
  · rintro ⟨ho, rfl, rfl⟩
    exact ⟨chain_of_operand ho, ordered_of_operand p ho, isBinary_eq_false_iff.mp ho⟩
  · rintro ⟨hc, -, ht⟩
    have ho := isBinary_eq_false_iff.mpr ht
    rw [chain_of_operand ho, Prod.mk.injEq] at hc
    exact ⟨ho, hc.1.symm, hc.2.symm⟩

/-- **One rung of the grammar**: if the parts are the ordered trees of the levels above `k`, then
joining them by the operators of level `k` gives the ordered trees of the levels from `k` on. -/
theorem leftJoined_iff {p : Precedence} {k : Nat} (hk3 : k ≤ 3) {joins : Operator → Prop}
    {part : Expr Q → Steps Q → Expr Q → Prop} (hj : ∀ op, joins op ↔ p.level op = k)
    (hp : ∀ {first steps tree}, part first steps tree ↔
      chain tree = (first, steps) ∧ Ordered p tree ∧ k + 1 ≤ tightness p tree)
    {first tree : Expr Q} {steps : Steps Q} :
    LeftJoined joins part first steps tree ↔
      chain tree = (first, steps) ∧ Ordered p tree ∧ k ≤ tightness p tree := by
  constructor
  · intro h
    induction h with
    | single h =>
      obtain ⟨hc, ho, ht⟩ := hp.mp h
      exact ⟨hc, ho, by omega⟩
    | more _ hop hr ih =>
      obtain ⟨hcl, hol, htl⟩ := ih
      obtain ⟨hcr, hor, htr⟩ := hp.mp hr
      have hk := (hj _).mp hop
      refine ⟨by simp only [chain, hcl, hcr], ⟨by omega, by omega, hol, hor⟩, ?_⟩
      simp only [tightness]; omega
  · rintro ⟨hc, ho, ht⟩
    induction tree generalizing first steps with
    | binary op left right ihl _ =>
      by_cases hk : p.level op = k
      · obtain ⟨hl, hr, hol, hor⟩ := ho
        simp only [chain, Prod.mk.injEq] at hc
        obtain ⟨rfl, rfl⟩ := hc
        exact .more (ihl rfl hol (by omega)) ((hj op).mpr hk) (hp.mpr ⟨rfl, hor, by omega⟩)
      · simp only [tightness] at ht
        exact .single (hp.mpr ⟨hc, ho, by simp only [tightness]; omega⟩)
    | _ =>
      refine .single (hp.mpr ⟨hc, ho, ?_⟩)
      simp only [tightness]; omega

/-- **The trees of the grammar are the ordered ones.** -/
theorem isDisjunction_iff (p : Precedence) {first tree : Expr Q} {steps : Steps Q} :
    IsDisjunction first steps tree ↔ chain tree = (first, steps) ∧ Ordered p tree := by
  have hcomparison : ∀ {first : Expr Q} {steps tree}, IsComparison first steps tree ↔ _ :=
    leftJoined_iff (by omega) p.isComparative_iff (isOperand_iff p)
  have hconjunction : ∀ {first : Expr Q} {steps tree}, IsConjunction first steps tree ↔ _ :=
    leftJoined_iff (by omega) p.isConjunctive_iff hcomparison
  have hdisjunction : IsDisjunction first steps tree ↔ _ :=
    leftJoined_iff (by omega) p.isDisjunctive_iff hconjunction
  rw [hdisjunction]
  exact ⟨fun ⟨hc, ho, _⟩ => ⟨hc, ho⟩, fun ⟨hc, ho⟩ => ⟨hc, ho, one_le_tightness p tree⟩⟩

theorem isDisjunction_insertAll (p : Precedence) {first : Expr Q} {steps : Steps Q}
    (hf : first.isBinary = false) (hs : OperandsOnly steps) :
    IsDisjunction first steps (insertAll p first steps) := by
  refine (isDisjunction_iff p).mpr ⟨?_, ordered_insertAll (ordered_of_operand p hf) hs⟩
  rw [chain_insertAll p first hs, chain_of_operand hf, List.nil_append]

/-- A chain has one tree in the grammar at most. -/
theorem IsDisjunction.unique {first a b : Expr Q} {steps : Steps Q}
    (ha : IsDisjunction first steps a) (hb : IsDisjunction first steps b) : a = b := by
  obtain ⟨hca, hoa⟩ := (isDisjunction_iff .standard).mp ha
  obtain ⟨hcb, hob⟩ := (isDisjunction_iff .standard).mp hb
  exact eq_of_chain_eq hoa hob (hca.trans hcb.symm)

end Expr
end Condition
