import Condition.Json.Numbers
import Condition.Pattern.Automata
import Condition.Proofs.Limits

/-! # How deep a tree is walked

Trees are written and evaluated by a walk that follows the left edge of a chain in a loop and goes
down into its leftmost operand, its right operands and the inside of groups (`walkDepth`). Along the
operators of a tree that is read, levels rise from one right operand to the next, so the walk goes
down at most three operators before it comes to an operand, however many operators there are; and
what stands in a group is walked like a tree of its own.

* `walkDepth_binary`: the depth of an operator from its operands, without the loop.
* `Ordered.walkDepth_le`: an ordered tree is at most three operators deeper than its operands.
* `nesting_le_iff_openAtMost`: groups are nested as deep as parentheses are open at once.
* `walkDepth_of_ofText`: the depth of a tree that is read, from the nesting of its groups. -/

namespace Condition.Expr

open Reading Token

section

variable [Pattern.Engine] {Q : Type} {settings : Settings Q}

/-! ### Depth -/

mutual

/-- **How deep a tree is walked**: a chain of operators is one step, with its leftmost operand and
all its right operands below it. -/
def walkDepth (e : Expr Q) : Nat :=
  match e with
  | .binary op left right =>
    let spine := spineOnto [(op, right)] left
    1 + max (walkDepth spine.1) (stepsDepth spine.2)
  | .group inner => 1 + walkDepth inner
  | _ => 1
termination_by e.size
decreasing_by
  · exact (size_spine_lt op left right).1
  · exact (size_spine_lt op left right).2
  · simp [size]

/-- How deep the right operands of a chain are walked. -/
def stepsDepth (steps : Steps Q) : Nat :=
  match steps with
  | [] => 0
  | step :: rest => max (walkDepth step.2) (stepsDepth rest)
termination_by stepsSize steps
decreasing_by
  · simp only [stepsSize]
    omega
  · simp only [stepsSize]
    omega

end

/-- How deep the operands along the left edge of a tree are walked. -/
def edgeDepth : Expr Q → Nat
  | .binary _ left right => max (edgeDepth left) (walkDepth right)
  | operand => walkDepth operand

theorem walkDepth_group (inner : Expr Q) : walkDepth (.group inner) = 1 + walkDepth inner := by
  rw [walkDepth]

/-- The loop along the left edge comes to the operands along it. -/
theorem depth_spineOnto (steps : Steps Q) (e : Expr Q) :
    max (walkDepth (spineOnto steps e).1) (stepsDepth (spineOnto steps e).2) =
      max (edgeDepth e) (stepsDepth steps) := by
  induction e generalizing steps with
  | binary op left right ih =>
    rw [spineOnto, ih, stepsDepth, edgeDepth]
    exact (Nat.max_assoc ..).symm
  | _ => rfl

/-- **An operator** is one step deeper than the operands along the left edge. -/
theorem walkDepth_binary (op : Operator) (left right : Expr Q) :
    walkDepth (.binary op left right) = 1 + max (edgeDepth left) (walkDepth right) := by
  rw [walkDepth]
  simp only [depth_spineOnto, stepsDepth, Nat.max_zero]

theorem edgeDepth_of_operand {e : Expr Q} (h : e.isBinary = false) : edgeDepth e = walkDepth e := by
  cases e with
  | binary => cases h
  | _ => rfl

theorem walkDepth_asRightOperand (op : Operator) (e : Expr Q) :
    walkDepth (asRightOperand op e) = walkDepth e :=
  eq_of_asRightOperand (fun _ => by simp only [walkDepth]) op e

/-! ### Ordered trees -/

/-- The operands of a tree are walked no deeper than a bound. -/
def OperandsWithin (bound : Nat) : Expr Q → Prop
  | .binary _ left right => OperandsWithin bound left ∧ OperandsWithin bound right
  | operand => walkDepth operand ≤ bound

theorem operandsWithin_of_operand {bound : Nat} {e : Expr Q} (h : e.isBinary = false) :
    OperandsWithin bound e ↔ walkDepth e ≤ bound := by
  cases e with
  | binary => cases h
  | _ => exact Iff.rfl

theorem OperandsWithin.mono {bound bound' : Nat} (h : bound ≤ bound') {e : Expr Q}
    (he : OperandsWithin bound e) : OperandsWithin bound' e := by
  induction e with
  | binary op left right ihl ihr => exact ⟨ihl he.1, ihr he.2⟩
  | _ => exact Nat.le_trans he h

theorem operandsWithin_insert {bound : Nat} (p : Precedence) {tree right : Expr Q} (op : Operator)
    (h : OperandsWithin bound tree) (hr : OperandsWithin bound right) :
    OperandsWithin bound (tree.insert p op right) := by
  induction tree with
  | binary other left last _ ih =>
    rw [insert]
    split
    · exact ⟨h.1, ih h.2⟩
    · exact ⟨h, hr⟩
  | _ => exact ⟨h, hr⟩

/-- **An ordered tree** is deeper than its operands by as many operators as there are levels from
its outermost operator on. -/
theorem Ordered.walkDepth_le {p : Precedence} {bound : Nat} {e : Expr Q} (h : Ordered p e)
    (hb : OperandsWithin bound e) : walkDepth e + tightness p e ≤ bound + 4 := by
  -- along the left edge nothing is deeper than an operand of the outermost operator
  have key : walkDepth e + tightness p e ≤ bound + 4 ∧
      (e.isBinary = true → edgeDepth e + tightness p e ≤ bound + 3) := by
    induction e with
    | binary op left right ihl ihr =>
      obtain ⟨hl, hr, hol, hor⟩ := h
      obtain ⟨hleft, hedge⟩ := ihl hol hb.1
      obtain ⟨hright, -⟩ := ihr hor hb.2
      have hlevel := p.level_le_three op
      have hl' : edgeDepth left + p.level op ≤ bound + 3 := by
        cases hbin : left.isBinary with
        | true => exact Nat.le_trans (Nat.add_le_add_left hl _) (hedge hbin)
        | false =>
          have := (operandsWithin_of_operand hbin).1 hb.1
          rw [edgeDepth_of_operand hbin]
          omega
      have hr' : walkDepth right + p.level op ≤ bound + 3 := by omega
      rw [walkDepth_binary, edgeDepth, tightness]
      omega
    | _ => exact ⟨Nat.add_le_add_right hb 4, by rintro ⟨⟩⟩
  exact key.1

/-- An expression whose operands are walked no deeper than its groups are nested. -/
theorem Ordered.walkDepth_le_nesting {p : Precedence} {e : Expr Q} (h : Ordered p e)
    (hb : OperandsWithin (4 * nesting e + 1) e) : walkDepth e ≤ 4 * (nesting e + 1) := by
  have hle := h.walkDepth_le hb
  have htight := one_le_tightness p e
  omega

/-! ### Trees that are read -/

variable [Json.Parser]

theorem IsLeaf.walkDepth {token : Token} {e : Expr Q} (h : IsLeaf settings token e) :
    walkDepth e = 1 := by
  have hatom := h.isAtom
  cases e with
  | binary | group | pattern => cases hatom
  | _ => simp only [Expr.walkDepth]

/-- The operands of a tree that is read are walked no deeper than its groups are nested. -/
theorem Arises.operandsWithin {n : Nonterminal} {room : Nat} {e : Expr Q}
    (h : Arises settings n room e) : OperandsWithin (4 * nesting e + 1) e := by
  induction h with
  | leaf h =>
    rw [operandsWithin_of_operand h.isBinary, h.walkDepth]
    exact Nat.le_add_left ..
  | @group room tree h ih =>
    have hle := h.ordered.walkDepth_le_nesting ih
    rw [operandsWithin_of_operand rfl, walkDepth_group, nesting]
    omega
  | alone _ ih => exact ih
  | insert op _ hr ih ihr =>
    rw [nesting_insert, nesting_asRightOperand]
    refine operandsWithin_insert _ op (ih.mono (by omega)) ?_
    rw [operandsWithin_of_operand (hr.isBinary_right op), walkDepth_asRightOperand]
    have := (operandsWithin_of_operand hr.isBinary).1 ihr
    omega

/-! ### Parentheses -/

/-- **Groups are nested** as deep as parentheses are open at once. -/
theorem nesting_le_iff_openAtMost {text : Text} {tree : Expr Q} {tokens : List Token} {k : Nat}
    (h : (ofText settings text).result = .ok tree)
    (hl : listOf text = .ok (tokens ++ [.endOfInput])) :
    nesting tree ≤ k ↔ OpenAtMost k tokens := by
  have hread : ∀ {limit}, (∃ other, (ofText { settings with maxNesting := limit } text).result =
      .ok other) ↔ nesting tree ≤ limit := exists_ofText_iff_nesting_le h
  constructor
  · intro hn
    obtain ⟨other, ho⟩ := hread.2 hn
    obtain ⟨tokens', hl', -, hopen⟩ := exists_derives_of_ofText ho
    rw [hl] at hl'
    rw [List.append_cancel_right (Except.ok.inj hl')]
    exact hopen
  · intro hopen
    obtain ⟨tokens', hl', hd, -⟩ := exists_derives_of_ofText h
    rw [hl] at hl'
    rw [← List.append_cancel_right (Except.ok.inj hl')] at hd
    exact hread.1 (exists_ofText_of_derives hl (hd.with_maxNesting k) hopen)

theorem nesting_eq_zero {text : Text} {tree : Expr Q} {tokens : List Token}
    (h : (ofText settings text).result = .ok tree) (hl : listOf text = .ok tokens)
    (hp : .leftParen ∉ tokens) : nesting tree = 0 := by
  obtain ⟨tokens', hl', -, -⟩ := exists_derives_of_ofText h
  rw [hl] at hl'
  obtain rfl := Except.ok.inj hl'
  refine Nat.le_zero.1 ((nesting_le_iff_openAtMost h hl).2 fun n => ?_)
  have hnone : .leftParen ∉ tokens'.take n := fun hm =>
    hp (List.mem_append_left _ (List.mem_of_mem_take hm))
  rw [List.count_eq_zero.2 hnone]
  exact Nat.zero_le _

/-! ### The bound -/

/-- **The walk of a tree that is read** is bounded by the nesting of its groups, however many
operators there are: at most four steps for each group around an operand, and four for the tree
itself. -/
theorem walkDepth_of_ofText {text : Text} {tree : Expr Q}
    (h : (ofText settings text).result = .ok tree) :
    walkDepth tree ≤ 4 * (nesting tree + 1) ∧ nesting tree ≤ settings.maxNesting ∧
      walkDepth tree ≤ 4 * (settings.maxNesting + 1) ∧
      ∀ tokens, listOf text = .ok tokens → .leftParen ∉ tokens → walkDepth tree ≤ 4 := by
  have harises := arises_of_ofText h
  have hwalk := harises.ordered.walkDepth_le_nesting harises.operandsWithin
  have hlimit := harises.nesting_le
  refine ⟨hwalk, hlimit, ?_, fun tokens hl hp => ?_⟩
  · exact Nat.le_trans hwalk (Nat.mul_le_mul_left 4 (Nat.succ_le_succ hlimit))
  · rwa [nesting_eq_zero h hl hp] at hwalk

end

/-- All eight steps: a chain of three levels, with such a chain in a group at its end. -/
theorem walkDepth_of_rising_levels :
    ∃ tree : Expr Empty,
      (ofText { maxNesting := 1 } "a OR b AND c == (d OR e AND f == g)".toList).result = .ok tree ∧
        walkDepth tree = 8 ∧ walkDepth tree ≤ 4 * (nesting tree + 1) ∧ nesting tree ≤ 1 := by
  have hdepth : (ofText ({ maxNesting := 1 } : Settings Empty)
      "a OR b AND c == (d OR e AND f == g)".toList).result.toOption.any
        (fun tree => walkDepth tree == 8) = true := by decide +kernel
  obtain ⟨tree, htree, height⟩ := exists_ofText_of_any hdepth
  obtain ⟨hwalk, hlimit, -⟩ := walkDepth_of_ofText htree
  exact ⟨tree, htree, eq_of_beq height, hwalk, hlimit⟩

end Condition.Expr
