import Condition.Proofs.Displays

/-! # Left edges

An expression is the operand at the end of its left edge with the operators of that edge applied to
it, one after the other. There is one such operand that is no operator itself, and one such chain.
The display follows the edge, and writes what the recursion on the tree writes (`displayTree`).

* `spine_eq_iff`: the walk along the left edge finds the one decomposition.
* `display_eq_displayTree`: the display is the recursion on the tree.
* `spine_decomposes`: both together. -/

namespace Condition.Expr

variable [Pattern.Engine] {Q : Type} {e first : Expr Q} {steps : Steps Q}

/-! ### Taking an expression apart and putting it together -/

theorem ofSpine_cons (first : Expr Q) (step : Operator × Expr Q) (steps : Steps Q) :
    ofSpine first (step :: steps) = ofSpine (.binary step.1 first step.2) steps := rfl

theorem spineOnto_of_operand (h : e.isBinary = false) (steps : Steps Q) :
    spineOnto steps e = (e, steps) := by
  cases e with
  | binary => cases h
  | _ => rfl

/-- What the walk has passed and what is still in front of it make up the expression at each
place. -/
theorem ofSpine_spineOnto (steps : Steps Q) (e : Expr Q) :
    ofSpine (spineOnto steps e).1 (spineOnto steps e).2 = ofSpine e steps := by
  induction e generalizing steps with
  | binary op left right ih => rw [spineOnto, ih, ofSpine_cons]
  | _ => rfl

/-- Down a chain of operators the walk puts them all in front of the steps so far. -/
theorem spineOnto_ofSpine (first : Expr Q) (steps others : Steps Q) :
    spineOnto others (ofSpine first steps) = spineOnto (steps ++ others) first := by
  induction steps generalizing first with
  | nil => rfl
  | cons step steps ih => rw [ofSpine_cons, ih, spineOnto, List.cons_append]

theorem isBinary_spineOnto (steps : Steps Q) (e : Expr Q) :
    (spineOnto steps e).1.isBinary = false := by
  induction e generalizing steps with
  | binary op left right ih => rw [spineOnto, ih]
  | _ => rfl

/-- An expression is the chain of operators on its left edge. -/
theorem ofSpine_spine (e : Expr Q) : ofSpine (spine e).1 (spine e).2 = e := ofSpine_spineOnto [] e

/-- A chain of operators over an operand is found again. -/
theorem spine_ofSpine (h : first.isBinary = false) (steps : Steps Q) :
    spine (ofSpine first steps) = (first, steps) := by
  rw [spine, spineOnto_ofSpine, List.append_nil, spineOnto_of_operand h]

/-- **The one decomposition** of an expression into an operand and a chain of operators. -/
theorem spine_eq_iff :
    spine e = (first, steps) ↔ first.isBinary = false ∧ ofSpine first steps = e := by
  constructor
  · intro h
    have hfirst := isBinary_spineOnto [] e
    have hall := ofSpine_spine e
    rw [← spine, h] at hfirst
    rw [h] at hall
    exact ⟨hfirst, hall⟩
  · rintro ⟨h, rfl⟩
    exact spine_ofSpine h steps

example : spine (.binary .or (.binary .and (.name ['a']) (.name ['b'])) (.name ['c']) : Expr Unit) =
    (.name ['a'], [(.and, .name ['b']), (.or, .name ['c'])]) := rfl

/-! ### The display -/

/-- **The text of an expression by recursion on its tree**: an operator stands between its operands,
in parentheses of its own. -/
def displayTree : Expr Q → Text
  | .binary op left right =>
    ['('] ++ displayTree left ++ [' '] ++ op.symbol ++ [' '] ++ displayTree right ++ [')']
  | .group inner => ['('] ++ displayTree inner ++ [')']
  | .name text => text
  | .string text => Text.quoted text
  | .pattern p => Text.quoted p.source
  | .number d => d.plain
  | .boolean b => Token.booleanText b
  | .strings items => bracketed (items.map Text.quoted)
  | .numbers items => bracketed (items.map Double.listed)
  | .subQuery source mode _ => Token.subQueryText source (some mode.name)

/-- **The display is the recursion on the tree.** -/
theorem display_eq_displayTree (e : Expr Q) : display e = displayTree e := by
  induction e with
  | binary op left right ihl ihr =>
    rw [display_binary, ihl, ihr, displayTree]
    simp only [List.append_assoc, List.cons_append, List.nil_append]
  | group inner ih =>
    rw [display_group, ih, displayTree]
    rfl
  | _ => rw [display, displayTree]

/-- The display follows the left edge: a parenthesis for each operator, the operand, and the
operators. -/
theorem display_eq_spine (e : Expr Q) :
    display e = List.replicate (spine e).2.length '(' ++ display (spine e).1 ++
      displaySteps (spine e).2 := by
  have hwalk := display_spineOnto [] e
  rw [displaySteps, List.append_nil] at hwalk
  exact hwalk.symm

/-- **The left edge of an expression** takes it apart exactly. Its operators, applied one after the
other to the operand at its end, are the expression, that operand is no operator, and there is no
other such operand and chain. The display writes as many parentheses as there are operators on the
edge, the operand, and each operator with its right operand and a closing parenthesis; that is the
text which the recursion on the tree gives. -/
theorem spine_decomposes (e : Expr Q) :
    (ofSpine (spine e).1 (spine e).2 = e ∧ (spine e).1.isBinary = false ∧
      ∀ first steps, spine e = (first, steps) ↔ first.isBinary = false ∧ ofSpine first steps = e) ∧
    display e = List.replicate (spine e).2.length '(' ++ display (spine e).1 ++
      displaySteps (spine e).2 ∧
    display e = displayTree e :=
  ⟨⟨ofSpine_spine e, isBinary_spineOnto [] e, fun _ _ => spine_eq_iff⟩, display_eq_spine e,
    display_eq_displayTree e⟩

end Condition.Expr
