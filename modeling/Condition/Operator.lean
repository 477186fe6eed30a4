import Condition.Text

/-!
# Operators

The fourteen operators that join two operands, how they are written, and how tight they bind. There
are two ways to find the level of an operator, both of which give three levels (`level_eq`): the
disjunctions bind loosest, then the conjunctions, and comparisons of any sort bind tightest.
-/

namespace Condition

/-- An operator between two operands. -/
inductive Operator where
  | or
  | xor
  | and
  | nand
  | equal
  | notEqual
  | less
  | atMost
  | greater
  | atLeast
  | matching
  | notMatching
  | member
  | notMember
  deriving DecidableEq, Repr

namespace Operator

/-- How an operator is written. -/
def symbol : Operator → Text
  | .or => ['O', 'R']
  | .xor => ['X', 'O', 'R']
  | .and => ['A', 'N', 'D']
  | .nand => ['N', 'A', 'N', 'D']
  | .equal => ['=', '=']
  | .notEqual => ['!', '=']
  | .less => ['<']
  | .atMost => ['<', '=']
  | .greater => ['>']
  | .atLeast => ['>', '=']
  | .matching => ['=', '~']
  | .notMatching => ['!', '~']
  | .member => ['I', 'N']
  | .notMember => ['N', 'O', 'T', ' ', 'I', 'N']

/-- Whether the right operand of an operator is a pattern. -/
def takesPattern : Operator → Bool
  | .matching | .notMatching => true
  | _ => false

/-- Every operator, the loosest first. -/
def all : List Operator :=
  [.or, .xor, .and, .nand, .equal, .notEqual, .less, .atMost, .greater, .atLeast, .matching,
   .notMatching, .member, .notMember]

end Operator

/-- A way to find how tight an operator binds. -/
inductive Precedence where
  /-- Each operator has its level. -/
  | direct
  /-- The level is the place of the operator's group in a table. -/
  | tabled
  deriving DecidableEq, Repr

namespace Precedence

/-- The precedence used where none is chosen. -/
def standard : Precedence := .direct

/-- The groups of operators, the loosest first. -/
def groups : List (List Operator) :=
  [[.or, .xor],
   [.and, .nand],
   [.equal, .notEqual, .less, .atMost, .greater, .atLeast, .matching, .notMatching, .member,
    .notMember]]

/-- The level of each operator. -/
def directLevel : Operator → Nat
  | .or | .xor => 1
  | .and | .nand => 2
  | _ => 3

/-- The number of the first group with the operator, counted from one; zero if no group has it. -/
def tabledLevel (op : Operator) : Nat :=
  match groups.findIdx? (·.contains op) with
  | some place => place + 1
  | none => 0

/-- The level of an operator. The higher it is, the tighter the operator binds. -/
def level : Precedence → Operator → Nat
  | .direct, op => directLevel op
  | .tabled, op => tabledLevel op

theorem level_eq (a b : Precedence) (op : Operator) : a.level op = b.level op := by
  cases a <;> cases b <;> cases op <;> rfl

/-- The precedence with a version number. -/
def ofVersion? (version : Int) : Option Precedence :=
  if version = 0 then some .tabled else if version = 1 then some .direct else none

/-- The version number of a precedence. -/
def version : Precedence → Int
  | .direct => 1
  | .tabled => 0

end Precedence
end Condition
