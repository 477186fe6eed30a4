import Condition.Proofs.Grouping
import Condition.Proofs.Reduction

/-! # Where an operator is inserted

A tree can be taken apart along its right edge: into operators with their left operands, and the
expression below them (`onEdge`). Each operator has one place there: below the operators that bind
looser, as far down as these go on (`IsPlace`). An insertion puts the new operator into that place,
above what stood there, and leaves everything else as it is. None of this asks for a tree that is
ordered.

* `exists_isPlace`, `IsPlace.unique`: each operator has one place in each tree.
* `IsPlace.insert_eq`: an insertion changes the tree in that place only.
* `insert_at_place`: the same with what comes of the chain, the number of operators and the
  order. -/

namespace Condition.Expr

variable [Pattern.Engine] {Q : Type} {p : Precedence} {op other : Operator}
  {tree left last below below' : Expr Q}

/-! ### The right edge -/

/-- Operators along the right edge of a tree, each with its left operand, the outermost first. -/
abbrev Edge (Q : Type) := List (Operator × Expr Q)

/-- The tree with these operators along its right edge, and with an expression below them. -/
def onEdge (edge : Edge Q) (below : Expr Q) : Expr Q :=
  edge.foldr (fun step right => .binary step.1 step.2 right) below

/-- **The place of an operator** in a tree: all operators above it bind looser, and what stands in
it holds as tight as the operator, or tighter. -/
structure IsPlace (p : Precedence) (op : Operator) (tree : Expr Q) (edge : Edge Q)
    (below : Expr Q) : Prop where
  tree_eq : tree = onEdge edge below
  looser : ∀ step ∈ edge, p.level step.1 < p.level op
  ends : p.level op ≤ tightness p below

variable {edge edge' : Edge Q}

theorem onEdge_cons (other : Operator) (left : Expr Q) (edge : Edge Q) (below : Expr Q) :
    onEdge ((other, left) :: edge) below = .binary other left (onEdge edge below) := rfl

theorem level_le_tightness_of_operand (p : Precedence) (op : Operator) (h : tree.isBinary = false) :
    p.level op ≤ tightness p tree := by
  have := p.level_le_three op
  have := tightness_of_operand p h
  omega

/-- A tree that holds as tight as the operator is its place. -/
theorem isPlace_iff_of_level_le (h : p.level op ≤ tightness p tree) :
    IsPlace p op tree edge below ↔ edge = [] ∧ below = tree := by
  constructor
  · rintro ⟨rfl, hlooser, -⟩
    cases edge with
    | nil => exact ⟨rfl, rfl⟩
    | cons step edge => exact absurd (hlooser step List.mem_cons_self) (Nat.not_lt.2 h)
  · rintro ⟨rfl, rfl⟩
    exact ⟨rfl, by simp, h⟩

/-- Below an operator that binds looser, the place is the one in its right operand. -/
theorem isPlace_binary_iff (h : p.level other < p.level op) :
    IsPlace p op (.binary other left last) edge below ↔
      ∃ rest, edge = (other, left) :: rest ∧ IsPlace p op last rest below := by
  constructor
  · rintro ⟨htree, hlooser, hends⟩
    cases edge with
    | nil =>
      obtain rfl : .binary other left last = below := htree
      exact absurd h (Nat.not_lt.2 hends)
    | cons step edge =>
      obtain ⟨other', left'⟩ := step
      obtain ⟨rfl, rfl, rfl⟩ :=
        (binary.injEq ..).mp (htree.trans (onEdge_cons other' left' edge below))
      exact ⟨edge, rfl, rfl, (List.forall_mem_cons.1 hlooser).2, hends⟩
  · rintro ⟨rest, rfl, rfl, hlooser, hends⟩
    exact ⟨rfl, List.forall_mem_cons.2 ⟨h, hlooser⟩, hends⟩

/-- Every operator has a place in every tree. -/
theorem exists_isPlace (p : Precedence) (op : Operator) (tree : Expr Q) :
    ∃ edge below, IsPlace p op tree edge below := by
  induction tree with
  | binary other left last _ ih =>
    by_cases h : p.level other < p.level op
    · obtain ⟨edge, below, hplace⟩ := ih
      exact ⟨_, below, (isPlace_binary_iff h).2 ⟨edge, rfl, hplace⟩⟩
    · have hends : p.level op ≤ tightness p (.binary other left last) := Nat.not_lt.1 h
      exact ⟨[], _, (isPlace_iff_of_level_le hends).2 ⟨rfl, rfl⟩⟩
  | _ => exact ⟨[], _, (isPlace_iff_of_level_le (level_le_tightness_of_operand p op rfl)).2
    ⟨rfl, rfl⟩⟩

/-- **An operator has one place** in a tree. -/
theorem IsPlace.unique (h : IsPlace p op tree edge below) (h' : IsPlace p op tree edge' below') :
    edge' = edge ∧ below' = below := by
  -- each step of the first edge decides how the second one goes on
  induction edge generalizing tree edge' with
  | nil =>
    obtain ⟨rfl, -, hends⟩ := h
    exact (isPlace_iff_of_level_le hends).1 h'
  | cons step edge ih =>
    obtain ⟨other, left⟩ := step
    obtain ⟨rfl, hlooser, hends⟩ := h
    obtain ⟨hother, hedge⟩ := List.forall_mem_cons.1 hlooser
    obtain ⟨rest, rfl, hrest⟩ := (isPlace_binary_iff hother).1 h'
    obtain ⟨rfl, rfl⟩ := ih ⟨rfl, hedge, hends⟩ hrest
    exact ⟨rfl, rfl⟩

/-- **Insertion** puts the new operator into its place, above what stands there. -/
theorem IsPlace.insert_eq (h : IsPlace p op tree edge below) (right : Expr Q) :
    tree.insert p op right = onEdge edge (.binary op below right) := by
  induction edge generalizing tree with
  | nil =>
    obtain ⟨rfl, -, hends⟩ := h
    exact insert_of_level_le hends right
  | cons step edge ih =>
    obtain ⟨other, left⟩ := step
    obtain ⟨rfl, hlooser, hends⟩ := h
    obtain ⟨hother, hedge⟩ := List.forall_mem_cons.1 hlooser
    rw [onEdge_cons, insert, if_pos hother, onEdge_cons, ih ⟨rfl, hedge, hends⟩]

/-- An insertion adds one operator, and those of the operand that is inserted. -/
theorem length_nodes_insert (p : Precedence) (tree : Expr Q) (op : Operator) (right : Expr Q) :
    (nodes (tree.insert p op right)).length = (nodes tree).length + (nodes right).length + 1 := by
  let count : Expr Q → Nat := fun e => (nodes e).length
  let join : Nat → Nat → Nat := fun m n => m + n + 1
  have hassoc : ∀ a b c, join (join a b) c = join a (join b c) := by
    intro a b c
    show a + b + 1 + c + 1 = a + (b + c + 1) + 1
    omega
  have hcount : ∀ op left right, count (.binary op left right) =
      join (count left) (count right) := by
    intro op left right
    show (nodes (.binary op left right)).length = _
    rw [nodes, List.length_cons, List.length_append]
  exact join_insert hassoc hcount p tree op right

/-- **Insertion is conservative**, whatever the tree. The operands and operators from left to right
are those of the tree, then the new operator, then those that are inserted. The operator stands in
its place, which is the only one that it has: its left operand is what stood there, its right
operand the one that is inserted, and above and beside it nothing changes. It is the one operator
that is added. And if the tree is ordered and an operand is inserted, the tree stays ordered. -/
theorem insert_at_place (p : Precedence) (tree : Expr Q) (op : Operator) (right : Expr Q) :
    let inserted := tree.insert p op right
    chain inserted = ((chain tree).1, (chain tree).2 ++ (op, (chain right).1) :: (chain right).2) ∧
    (∃ edge below, IsPlace p op tree edge below ∧ inserted = onEdge edge (.binary op below right) ∧
      ∀ edge' below', IsPlace p op tree edge' below' → edge' = edge ∧ below' = below) ∧
    (nodes inserted).length = (nodes tree).length + (nodes right).length + 1 ∧
    (Ordered p tree → right.isBinary = false → Ordered p inserted) := by
  intro inserted
  obtain ⟨edge, below, hplace⟩ := exists_isPlace p op tree
  refine ⟨chain_insert p tree op right, ⟨edge, below, hplace, hplace.insert_eq right, ?_⟩,
    length_nodes_insert p tree op right, fun hordered hright => ordered_insert hordered op hright⟩
  intro edge' below' hplace'
  exact hplace.unique hplace'

/-- An operator that binds looser is not reached below one that does not. -/
example (p : Precedence) (a b c d : Expr Q) :
    insert p (.binary .equal a (.binary .or b c)) .and d =
      .binary .and (.binary .equal a (.binary .or b c)) d := by
  cases p <;> rfl

end Condition.Expr
