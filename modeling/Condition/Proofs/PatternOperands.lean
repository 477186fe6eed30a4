import Condition.Json.Numbers
import Condition.Pattern.Automata
import Condition.Proofs.Recursion
import Condition.Proofs.Trees

/-! # Patterns among the operands

A pattern is read once, with the condition, so that it is not read again each time the condition is
evaluated. Where a part of a tree stands matters for that only as far as it is the right operand of
an operator (`parts`): the patterns of a tree that is read are right operands of operators that take
one, and the strings there are those that spell no pattern (`Arises.wellPlaced`). And a tree reduces
as it does with the texts of its patterns in their place (`reduce_spelledOut`), wherever they
stand. -/

namespace Condition.Expr

/-- An operator that binds looser than another takes no pattern. -/
theorem takesPattern_of_level_lt {p : Precedence} {other op : Operator}
    (h : p.level other < p.level op) : other.takesPattern = false := by
  have hlevel := p.level_le_three op
  cases ht : other.takesPattern with
  | false => rfl
  | true =>
    have hcomparative : other.isComparative = true := by
      cases other with
      | matching | notMatching => rfl
      | _ => cases ht
    rw [Precedence.isComparative_iff p] at hcomparative
    omega

section

variable [Pattern.Engine] {Q : Type} {settings : Settings Q} {place : Option Operator}

/-! ### Parts and their places -/

/-- The expressions in an expression, each with the operator whose right operand it is, if it is
one. -/
def parts (place : Option Operator) : Expr Q → List (Option Operator × Expr Q)
  | .binary op left right =>
    (place, .binary op left right) :: (parts none left ++ parts (some op) right)
  | .group inner => (place, .group inner) :: parts none inner
  | operand => [(place, operand)]

/-- Whether an expression may stand in a place: a pattern only behind an operator that takes one,
and a string there only if it spells none. -/
def Fits (place : Option Operator) : Expr Q → Prop
  | .pattern _ => ∃ op, place = some op ∧ op.takesPattern = true
  | .string text => ∀ op, place = some op → op.takesPattern = true → Pattern.ofText? text = none
  | _ => True

/-- **All parts of an expression fit** where they stand. -/
def WellPlaced (place : Option Operator) (e : Expr Q) : Prop :=
  ∀ part ∈ parts place e, Fits part.1 part.2

theorem wellPlaced_binary {op : Operator} {left right : Expr Q} :
    WellPlaced place (.binary op left right) ↔ WellPlaced none left ∧
      WellPlaced (some op) right := by
  unfold WellPlaced
  rw [parts, List.forall_mem_cons, List.forall_mem_append]
  exact and_iff_right trivial

theorem wellPlaced_group {inner : Expr Q} :
    WellPlaced place (.group inner) ↔ WellPlaced none inner := by
  unfold WellPlaced
  rw [parts, List.forall_mem_cons]
  exact and_iff_right trivial

theorem wellPlaced_of_parts {e : Expr Q} (h : parts place e = [(place, e)]) (hf : Fits place e) :
    WellPlaced place e := by
  intro part hm
  rw [h] at hm
  obtain rfl := List.mem_singleton.1 hm
  exact hf

theorem mem_parts_self (place : Option Operator) (e : Expr Q) : (place, e) ∈ parts place e := by
  cases e with
  | binary | group => exact List.mem_cons_self
  | _ => exact List.mem_singleton_self _

/-- What fits behind an operator that takes no pattern fits in front of an operator. -/
theorem WellPlaced.of_not_takesPattern {e : Expr Q}
    (hp : ∀ op, place = some op → op.takesPattern = false) (h : WellPlaced place e) :
    WellPlaced none e := by
  cases e with
  | binary => exact wellPlaced_binary.2 (wellPlaced_binary.1 h)
  | group => exact wellPlaced_group.2 (wellPlaced_group.1 h)
  | pattern p =>
    obtain ⟨op, rfl, ht⟩ := h _ (mem_parts_self place (.pattern p))
    rw [hp op rfl] at ht
    cases ht
  | string text => exact wellPlaced_of_parts rfl (by rintro op ⟨⟩)
  | _ => exact wellPlaced_of_parts rfl trivial

/-- **An insertion** takes no pattern and no string from the operator that it stands behind. -/
theorem wellPlaced_insert {p : Precedence} {op : Operator} {tree right : Expr Q}
    (hp : ∀ outer, place = some outer → outer.takesPattern = false) (h : WellPlaced place tree)
    (hr : WellPlaced (some op) right) : WellPlaced place (tree.insert p op right) := by
  -- down the right edge the operators passed bind looser than the new one
  induction tree generalizing place with
  | binary other left last _ ih =>
    rw [insert]
    split
    · rename_i hlevel
      obtain ⟨hleft, hlast⟩ := wellPlaced_binary.1 h
      refine wellPlaced_binary.2 ⟨hleft, ih ?_ hlast⟩
      rintro outer ⟨rfl⟩
      exact takesPattern_of_level_lt hlevel
    · exact wellPlaced_binary.2 ⟨h.of_not_takesPattern hp, hr⟩
  | _ => exact wellPlaced_binary.2 ⟨h.of_not_takesPattern hp, hr⟩

/-- A string that becomes a pattern where it can fits behind its operator. -/
theorem wellPlaced_asRightOperand {op : Operator} {e : Expr Q} (h : WellPlaced none e) :
    WellPlaced (some op) (asRightOperand op e) := by
  cases e with
  | binary => exact wellPlaced_binary.2 (wellPlaced_binary.1 h)
  | group => exact wellPlaced_group.2 (wellPlaced_group.1 h)
  | pattern p =>
    obtain ⟨_, hp, -⟩ := h _ (mem_parts_self none (.pattern p))
    cases hp
  | string text =>
    rw [asRightOperand]
    split
    · rename_i ht
      split
      · exact wellPlaced_of_parts rfl ⟨op, rfl, ht⟩
      · rename_i hn
        exact wellPlaced_of_parts rfl (fun _ _ _ => hn)
    · rename_i ht
      refine wellPlaced_of_parts rfl ?_
      rintro _ ⟨rfl⟩ htakes
      exact absurd htakes ht
  | _ => exact wellPlaced_of_parts rfl trivial

/-! ### Trees that are read -/

section

variable [Json.Parser]

theorem IsLeaf.wellPlaced {token : Token} {e : Expr Q} (h : IsLeaf settings token e) :
    WellPlaced none e := by
  have hatom := h.isAtom
  cases e with
  | binary | group | pattern => cases hatom
  | string => exact wellPlaced_of_parts rfl (by rintro op ⟨⟩)
  | _ => exact wellPlaced_of_parts rfl trivial

/-- **In a tree that is read** all parts fit where they stand. -/
theorem Arises.wellPlaced {n : Nonterminal} {room : Nat} {e : Expr Q}
    (h : Arises settings n room e) : WellPlaced none e := by
  induction h with
  | leaf h => exact h.wellPlaced
  | group _ ih => exact wellPlaced_group.2 ih
  | alone _ ih => exact ih
  | insert op _ _ ih ihr =>
    exact wellPlaced_insert (by rintro outer ⟨⟩) ih (wellPlaced_asRightOperand ihr)

end

/-! ### Patterns and their texts -/

theorem eq_of_same_string {e : Expr Q} {text : Text} (h : same e (.string text) = true) :
    e = .string text := by
  cases e with
  | string other => exact congrArg _ (eq_of_beq h)
  | _ => cases h

/-- An expression with the text of each pattern in its place. -/
def spelledOut : Expr Q → Expr Q
  | .binary op left right => .binary op (spelledOut left) (spelledOut right)
  | .group inner => .group (spelledOut inner)
  | .pattern p => .string p.source
  | operand => operand

theorem patternFor?_spelledOut (op : Operator) (e : Expr Q) :
    patternFor? op (spelledOut e) = none := by
  cases e <;> rfl

theorem applyStep_of_patternFor? {op : Operator} {right : Expr Q} (h : patternFor? op right = none)
    (a : Literal) (reduced : Outcome Literal) : applyStep op a right reduced =
      reduced >>= fun b => settled (Literal.boolean <$> Literal.apply op a b) := by
  unfold applyStep
  rw [h]

variable [Pattern.Engine.Lawful]

/-- A pattern matches what its text matches. -/
theorem matches?_source (a : Literal) (p : Pattern) :
    Literal.matches? a (.string p.source) = a.matchesPattern p := by
  cases a with
  | string text =>
    unfold Literal.matches?
    simp only [Literal.asString, bind, Except.bind, Pattern.ofText?_source]
    rfl
  | _ => rfl

/-- **A pattern that was read before** gives the truth value that its text gives. -/
theorem applyPattern_eq_apply {op : Operator} (h : op.takesPattern = true) (a : Literal)
    (p : Pattern) :
    applyPattern op a p = Literal.boolean <$> Literal.apply op a (.string p.source) := by
  cases op with
  | matching | notMatching =>
    rw [Literal.apply, matches?_source, applyPattern]
    cases a.matchesPattern p with
    | ok matched => cases matched <;> rfl
    | error => rfl
  | _ => cases h

/-- Behind every operator a pattern counts as its text. -/
theorem applyStep_pattern (op : Operator) (a : Literal) (p : Pattern) :
    applyStep op a (.pattern p : Expr Q) (pure (.string p.source)) =
      settled (Literal.boolean <$> Literal.apply op a (.string p.source)) := by
  have hp : patternFor? op (.pattern p : Expr Q) =
      if op.takesPattern = true then some p else none := rfl
  unfold applyStep
  rw [hp]
  by_cases ht : op.takesPattern = true
  · rw [if_pos ht, ← applyPattern_eq_apply ht]
  · rw [if_neg ht]
    rfl

/-- **A tree reduces** as it does with the text of each pattern in its place: to the same literal,
or to the same error in the same contexts, and with the same events. -/
theorem reduce_spelledOut [Query.Runnable Q] (args : Args) (e : Expr Q) :
    reduce args (spelledOut e) = reduce args e := by
  rw [reduce_eq_reduceTree, reduce_eq_reduceTree]
  induction e with
  | binary op left right ihl ihr =>
    rw [spelledOut, reduceTree, reduceTree, ihl]
    refine congrArg _ (funext fun a => congrArg _ ?_)
    rw [applyStep_of_patternFor? (patternFor?_spelledOut op right), ihr]
    cases right with
    | pattern p => exact (applyStep_pattern op a p).symm
    | _ => rfl
  | group inner ih => rw [spelledOut, reduceTree, reduceTree, ih]
  | _ => rfl

/-! ### Patterns that are read with the condition -/

/-- **Patterns that are read with the condition** change nothing: they stand only behind operators
that match patterns, where each string is one that spells none; and an expression, with patterns
wherever they may be, reduces as it does with their texts. -/
theorem patterns_of_ofText [Json.Parser] [Query.Runnable Q] (settings : Settings Q) :
    (∀ (text : Text) (tree : Expr Q), (ofText settings text).result = .ok tree →
      (∀ place p, (place, .pattern p) ∈ parts none tree →
        place = some .matching ∨ place = some .notMatching) ∧
      ∀ place source, (place, .string source) ∈ parts none tree →
        place = some .matching ∨ place = some .notMatching → Pattern.ofText? source = none) ∧
    ∀ (args : Args) (e : Expr Q), reduce args (spelledOut e) = reduce args e := by
  refine ⟨fun text tree h => ?_, reduce_spelledOut⟩
  have hplaced := (arises_of_ofText h).wellPlaced
  constructor
  · intro place p hm
    obtain ⟨op, rfl, ht⟩ := hplaced _ hm
    cases op with
    | matching => exact .inl rfl
    | notMatching => exact .inr rfl
    | _ => cases ht
  · rintro place source hm (rfl | rfl)
    · exact hplaced _ hm .matching rfl rfl
    · exact hplaced _ hm .notMatching rfl rfl

end

/-- The text behind `=~` is a pattern, also when operators that bind looser come behind it; the one
behind `!~` spells none and stays. -/
theorem patterns_of_ofText_of_two_texts :
    ∃ (tree : Expr Path) (p : Pattern) (place : Option Operator),
      (ofText {} "a =~ 'x' AND b !~ '(' OR c".toList).result = .ok tree ∧
        (place, .pattern p) ∈ parts none tree ∧
        (place = some .matching ∨ place = some .notMatching) ∧
        (some .notMatching, .string ['(']) ∈ parts none tree ∧ Pattern.ofText? ['('] = none ∧
        reduce [] (spelledOut tree) = reduce [] tree := by
  have hparts :
      (ofText ({} : Settings Path) "a =~ 'x' AND b !~ '(' OR c".toList).result.toOption.any
      (fun tree => (parts none tree).any (fun part => (patternFor? .matching part.2).isSome) &&
        (parts none tree).any fun part =>
          part.1 == some .notMatching && same part.2 (.string ['('])) = true := by decide +kernel
  obtain ⟨htrees, hreduce⟩ := patterns_of_ofText ({} : Settings Path)
  obtain ⟨tree, htree, hboth⟩ := exists_ofText_of_any hparts
  obtain ⟨hpatterns, hstrings⟩ := htrees _ _ htree
  obtain ⟨hpattern, hstring⟩ := Bool.and_eq_true_iff.1 hboth
  obtain ⟨⟨place, e⟩, hm, he⟩ := List.any_eq_true.1 hpattern
  obtain ⟨p, hp⟩ := Option.isSome_iff_exists.1 he
  obtain ⟨rfl, -⟩ := patternFor?_eq_some hp
  obtain ⟨⟨place', e'⟩, hm', he'⟩ := List.any_eq_true.1 hstring
  obtain ⟨hplace, hsame⟩ := Bool.and_eq_true_iff.1 he'
  obtain rfl : place' = some .notMatching := eq_of_beq hplace
  obtain rfl : e' = .string ['('] := eq_of_same_string hsame
  exact ⟨tree, p, place, htree, hm, hpatterns _ _ hm, hm', hstrings _ _ hm' (.inr rfl),
    hreduce [] tree⟩

end Condition.Expr
