import Condition.Operator
import Condition.Pattern
import Condition.Query.Basic

/-!
# Expressions

A condition is a tree of operators over operands: names of arguments, literals, queries, and groups
in parentheses. The tree is over the type `Q` of compiled queries and the engine of its patterns, so
it serves any engines.

A reader finds operators from left to right. `Expr.insert` adds the next operator with its right
operand: where the tree ends in an operator that binds looser, the new one takes over its right
operand only.
-/

namespace Condition

variable [Pattern.Engine]

/-- An expression whose queries are compiled to `Q`. -/
inductive Expr (Q : Type) where
  | binary (op : Operator) (left right : Expr Q)
  | group (inner : Expr Q)
  | name (text : Text)
  | string (text : Text)
  | pattern (p : Pattern)
  | number (d : Double)
  | boolean (b : Bool)
  | strings (items : List Text)
  | numbers (items : List Double)
  | subQuery (source : Text) (mode : Query.Mode) (query : Q)

namespace Expr

variable {Q : Type}

/-- Whether an expression is an operator with its operands. -/
def isBinary : Expr Q → Bool
  | .binary .. => true
  | _ => false

/-- The number of operators, groups and operands. -/
def size : Expr Q → Nat
  | .binary _ left right => left.size + right.size + 1
  | .group inner => inner.size + 1
  | _ => 1

theorem size_pos (e : Expr Q) : 0 < e.size := by
  cases e <;> simp [size]

/-! ### Inserting an operator -/

/-- The tree with another operator and its right operand behind it. -/
def insert (precedence : Precedence) (tree : Expr Q) (op : Operator) (right : Expr Q) : Expr Q :=
  match tree with
  | .binary other left last =>
    if precedence.level other < precedence.level op then
      .binary other left (insert precedence last op right)
    else .binary op (.binary other left last) right
  | operand => .binary op operand right

/-! ### The left edge -/

/-- A chain of operators: each with its right operand, in the order in which they apply. -/
abbrev Steps (Q : Type) := List (Operator × Expr Q)

/-- Walks down the left edge of an expression and puts what it passes in front of the steps so
far. -/
def spineOnto (steps : Steps Q) : Expr Q → Expr Q × Steps Q
  | .binary op left right => spineOnto ((op, right) :: steps) left
  | operand => (operand, steps)

/-- The leftmost operand of an expression, and the operators that apply to it one after the
other. -/
def spine (e : Expr Q) : Expr Q × Steps Q := spineOnto [] e

/-- An operand with a chain of operators applied to it. -/
def ofSpine (first : Expr Q) (steps : Steps Q) : Expr Q :=
  steps.foldl (fun left step => .binary step.1 left step.2) first

/-- The size of a chain of operators. -/
def stepsSize : Steps Q → Nat
  | [] => 0
  | step :: rest => step.2.size + 1 + stepsSize rest

theorem size_spineOnto (steps : Steps Q) (e : Expr Q) :
    (spineOnto steps e).1.size + stepsSize (spineOnto steps e).2 = e.size + stepsSize steps := by
  induction e generalizing steps with
  | binary op left right ihl =>
    rw [spineOnto, ihl]
    simp only [stepsSize, size]
    omega
  | _ => simp [spineOnto]

theorem size_spineOnto_fst_le (steps : Steps Q) (e : Expr Q) :
    (spineOnto steps e).1.size ≤ e.size := by
  induction e generalizing steps with
  | binary op left right ihl =>
    rw [spineOnto]
    have := ihl ((op, right) :: steps)
    simp only [size]
    omega
  | _ => simp [spineOnto]

/-- The leftmost operand of a chain is smaller than the chain, and so are the operators applied to
it. -/
theorem size_spine_lt (op : Operator) (left right : Expr Q) :
    (spineOnto [(op, right)] left).1.size < (binary op left right).size ∧
      stepsSize (spineOnto [(op, right)] left).2 < (binary op left right).size := by
  have h := size_spineOnto [(op, right)] left
  have hle := size_spineOnto_fst_le [(op, right)] left
  have hpos := size_pos (spineOnto [(op, right)] left).1
  simp only [stepsSize] at h
  simp only [size]
  omega

/-! ### Equality -/

/-- Whether two lists of numbers have the same values. -/
def sameNumbers : List Double → List Double → Bool
  | [], [] => true
  | a :: as, b :: bs => a.equals b && sameNumbers as bs
  | _, _ => false

/-- Whether two expressions are written alike: numbers are compared by value, patterns by their
text, and queries by their text and mode. -/
def same : Expr Q → Expr Q → Bool
  | .binary op left right, .binary op' left' right' =>
    op == op' && same left left' && same right right'
  | .group inner, .group inner' => same inner inner'
  | .name text, .name text' => text == text'
  | .string text, .string text' => text == text'
  | .pattern p, .pattern p' => p.source == p'.source
  | .number d, .number d' => d.equals d'
  | .boolean b, .boolean b' => b == b'
  | .strings items, .strings items' => items == items'
  | .numbers items, .numbers items' => sameNumbers items items'
  | .subQuery source mode _, .subQuery source' mode' _ => source == source' && mode == mode'
  | _, _ => false

end Expr
end Condition
