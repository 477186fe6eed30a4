import Condition.Proofs.Conditions

/-! # Trees that are read

How the tree of a condition arises (`Arises`): an operand is a token or a group, and the operators
behind the first operand are inserted one after the other, each with its right operand. What holds
of operands and is kept by a group and by an insertion holds of every tree that is read.

* `arises_of_operandReader`, `arises_of_ofText`: the trees that the readings give arise so.
* `Arises.ordered`, `Arises.engine_of_mem_queries`: they are ordered, and their queries are compiled
  from their text. -/

namespace Condition.Expr

variable [Pattern.Engine] {Q : Type} {settings : Settings Q}

/-! ### Right operands and queries -/

/-- What does not tell a pattern from the text it was compiled from does not tell a right operand
from what was read there. -/
theorem eq_of_asRightOperand {α : Type} {f : Expr Q → α}
    (h : ∀ {text : Text} {p : Pattern}, Pattern.ofText? text = some p →
      f (.pattern p) = f (.string text)) (op : Operator) (e : Expr Q) :
    f (asRightOperand op e) = f e := by
  unfold asRightOperand
  split
  · split
    · split
      · rename_i p hp
        exact h hp
      · rfl
    · rfl
  · rfl

/-- The queries of an expression, each with its text and its mode. -/
def queries : Expr Q → List (Text × Query.Mode × Q)
  | .binary _ left right => queries left ++ queries right
  | .group inner => queries inner
  | .subQuery source mode query => [(source, mode, query)]
  | _ => []

/-- The queries of a right operand that is inserted come last. -/
theorem queries_insert (p : Precedence) (tree right : Expr Q) (op : Operator) :
    queries (tree.insert p op right) = queries tree ++ queries right :=
  join_insert List.append_assoc (fun _ _ _ => rfl) p tree op right

theorem queries_asRightOperand (op : Operator) (e : Expr Q) :
    queries (asRightOperand op e) = queries e :=
  eq_of_asRightOperand (fun _ => rfl) op e

/-! ### How trees arise -/

variable [Json.Parser]

/-- **The trees that are read** as a part of the grammar, with room for a number of groups in one
another. -/
inductive Arises (settings : Settings Q) : Nonterminal → (room : Nat) → Expr Q → Prop where
  | leaf {room : Nat} {token : Token} {e : Expr Q} (h : IsLeaf settings token e) :
    Arises settings .operand room e
  | group {room : Nat} {tree : Expr Q} (h : Arises settings .expression room tree) :
    Arises settings .operand (room + 1) (.group tree)
  | alone {room : Nat} {e : Expr Q} (h : Arises settings .operand room e) :
    Arises settings .expression room e
  | insert {room : Nat} {tree right : Expr Q} (op : Operator)
    (h : Arises settings .expression room tree) (hr : Arises settings .operand room right) :
    Arises settings .expression room (tree.insert settings.precedence op (asRightOperand op right))

theorem Arises.isBinary {room : Nat} {e : Expr Q} (h : Arises settings .operand room e) :
    e.isBinary = false := by
  cases h with
  | leaf h => exact h.isBinary
  | group _ => rfl

/-- Whether an expression is an operand without parts, and no pattern. -/
def isAtom : Expr Q → Bool
  | .binary .. | .group _ | .pattern _ => false
  | _ => true

theorem IsLeaf.isAtom {token : Token} {e : Expr Q} (h : IsLeaf settings token e) :
    e.isAtom = true := by
  cases h with
  | array h => rcases ofPayload_cases h with ⟨_, rfl⟩ | ⟨_, rfl⟩ <;> rfl
  | _ => rfl

/-- A right operand that was read is no operator with its operands. -/
theorem Arises.isBinary_right {room : Nat} {right : Expr Q}
    (h : Arises settings .operand room right)
    (op : Operator) : (asRightOperand op right).isBinary = false :=
  isBinary_asRightOperand h.isBinary

/-! ### Readings -/

theorem Arises.insertAll {room : Nat} {operand : Reader Q (Expr Q)}
    (hop : ∀ {s left e}, operand.run s = .ok e left → Arises settings .operand room e)
    {s left : ReadState} {steps : Steps Q} (h : ReadsSteps operand s steps left) {tree : Expr Q}
    (ht : Arises settings .expression room tree) :
    Arises settings .expression room (insertAll settings.precedence tree steps) := by
  induction h generalizing tree with
  | stop => exact ht
  | step _ hr _ ih =>
    rw [insertAll_cons]
    exact ih (.insert _ ht (hop hr))

theorem arises_of_readExpression {room : Nat} {operand : Reader Q (Expr Q)}
    (hop : ∀ {s left e}, operand.run s = .ok e left → Arises settings .operand room e)
    {s left : ReadState} {tree : Expr Q} (h : readExpression settings operand s = .ok tree left) :
    Arises settings .expression room tree := by
  obtain ⟨first, steps, t, ⟨u, hf, hs⟩, -, rfl⟩ := readExpression_eq_ok_iff.1 h
  exact .insertAll hop hs (.alone (hop hf))

theorem arises_of_operandReader (room : Nat) {s left : ReadState} {e : Expr Q}
    (h : (operandReader settings room).run s = .ok e left) : Arises settings .operand room e := by
  induction room generalizing s left e with
  | zero =>
    rw [run_operandReader_zero] at h
    rcases readOperand_eq_ok h with ⟨_, _, _, hl, _⟩ | ⟨_, _, _, _, hi, _⟩
    · exact .leaf hl
    · cases hi
  | succ room ih =>
    rw [run_operandReader_succ] at h
    rcases readOperand_eq_ok h with ⟨_, _, _, hl, _⟩ | ⟨_, tree, t, u, hi, _, hr, _, rfl⟩
    · exact .leaf hl
    · cases hi
      exact .group (arises_of_readExpression ih hr)

/-- **The tree of a condition** arises with room for as many groups as the settings allow. -/
theorem arises_of_ofText {text : Text} {tree : Expr Q}
    (h : (ofText settings text).result = .ok tree) :
    Arises settings .expression settings.maxNesting tree := by
  obtain ⟨t, u, he, -⟩ := condition_eq_ok_iff.1 (result_ofText_eq_ok_iff.1 h)
  exact arises_of_readExpression (arises_of_operandReader _) he

/-- Whether a text is a condition with some property can be found out by reading it. -/
theorem exists_ofText_of_any {text : Text} {P : Expr Q → Bool}
    (h : (ofText settings text).result.toOption.any P = true) :
    ∃ tree, (ofText settings text).result = .ok tree ∧ P tree = true := by
  cases hr : (ofText settings text).result with
  | error failure =>
    rw [hr] at h
    cases h
  | ok tree =>
    rw [hr] at h
    exact ⟨tree, rfl, h⟩

/-! ### What holds of such trees -/

theorem Arises.ordered {n : Nonterminal} {room : Nat} {e : Expr Q} (h : Arises settings n room e) :
    Ordered settings.precedence e := by
  induction h with
  | leaf h => exact ordered_of_operand _ h.isBinary
  | group => trivial
  | alone _ ih => exact ih
  | insert op _ hr ih => exact ordered_insert ih op (hr.isBinary_right op)

theorem IsLeaf.engine_of_mem_queries {token : Token} {e : Expr Q} (h : IsLeaf settings token e)
    {source : Text} {mode : Query.Mode} {query : Q} (hm : (source, mode, query) ∈ queries e) :
    ∃ engine, settings.engine = some engine ∧ engine source = .ok query := by
  cases h with
  | array h => rcases ofPayload_cases h with ⟨_, rfl⟩ | ⟨_, rfl⟩ <;> cases hm
  | subQuery _ he hc =>
    cases List.mem_singleton.1 hm
    exact ⟨_, he, hc⟩
  | _ => cases hm

/-- **The queries of a tree** are what the engine makes of their text. -/
theorem Arises.engine_of_mem_queries {n : Nonterminal} {room : Nat} {e : Expr Q}
    (h : Arises settings n room e) {source : Text} {mode : Query.Mode} {query : Q}
    (hm : (source, mode, query) ∈ queries e) :
    ∃ engine, settings.engine = some engine ∧ engine source = .ok query := by
  induction h with
  | leaf h => exact h.engine_of_mem_queries hm
  | group _ ih => exact ih hm
  | alone _ ih => exact ih hm
  | insert op _ _ ih ihr =>
    rw [queries_insert, queries_asRightOperand] at hm
    exact (List.mem_append.1 hm).elim ih ihr

end Condition.Expr
