import Condition.Pattern.Assertion

/-!
# Regular expressions

An expression is made of characters, assertions, sequences, choices, repetitions and captures.
Expressions are kept in a normal form by the functions that make them (`ofSet`, `ofParts`,
`ofBranches`, `repeated`): sequences and choices do not stand directly in one another, literals that
meet are one literal, a choice of characters is a set, what all branches of a choice begin with
stands in front of it, and what takes no character is repeated at most once. The normal form matches
where the expression does, and how much room an expression takes is counted on it.
-/

namespace Condition

/-- A regular expression. -/
inductive Regex where
  | empty
  | literal (text : Text)
  | set (chars : CharSet)
  | assertion (a : Assertion)
  | sequence (inTurn : List Regex)
  | choice (options : List Regex)
  | repetition (body : Regex) (least : Nat) (most : Option Nat) (reluctant : Bool)
  | capture (index : Nat) (body : Regex)

namespace Regex

/-! ### Questions -/

mutual

/-- Whether an expression takes no character, however it matches. -/
def isIdle : Regex → Bool
  | .empty => true
  | .literal _ => false
  | .set _ => false
  | .assertion _ => true
  | .sequence parts => areIdle parts
  | .choice branches => areIdle branches
  | .repetition body _ _ _ => body.isIdle
  | .capture _ body => body.isIdle

/-- Whether none of some expressions takes a character, however they match. -/
def areIdle : List Regex → Bool
  | [] => true
  | part :: rest => part.isIdle && areIdle rest

end

mutual

/-- Whether an expression takes a character wherever it matches. -/
def isHungry : Regex → Bool
  | .empty => false
  | .literal _ => true
  | .set _ => true
  | .assertion _ => false
  | .sequence parts => isAnyHungry parts
  | .choice branches => areHungry branches
  | .repetition body least _ _ => least != 0 && body.isHungry
  | .capture _ body => body.isHungry

/-- Whether one of some expressions takes a character wherever it matches. -/
def isAnyHungry : List Regex → Bool
  | [] => false
  | part :: rest => part.isHungry || isAnyHungry rest

/-- Whether all of some expressions take a character wherever they match. -/
def areHungry : List Regex → Bool
  | [] => true
  | part :: rest => part.isHungry && areHungry rest

end

mutual

/-- Whether the empty set stands somewhere in an expression. -/
def hasVoid : Regex → Bool
  | .empty => false
  | .literal _ => false
  | .set chars => chars.ranges.isEmpty
  | .assertion _ => false
  | .sequence parts => haveVoid parts
  | .choice branches => haveVoid branches
  | .repetition body _ _ _ => body.hasVoid
  | .capture _ body => body.hasVoid

/-- Whether the empty set stands somewhere in some expressions. -/
def haveVoid : List Regex → Bool
  | [] => false
  | part :: rest => part.hasVoid || haveVoid rest

end

/-- Whether an expression is known to take a character in each round of a repetition: an expression
with the empty set in it counts as unknown. -/
def takesInput (regex : Regex) : Bool := regex.isHungry && !regex.hasVoid

/-- Whether the first parts that may take a character, and those in front of them, make the
assertion; a part is given by whether it makes the assertion itself and whether it is idle. -/
def leads : List (Bool × Bool) → Bool
  | [] => false
  | (asserts, idle) :: rest => asserts || (idle && leads rest)

mutual

/-- Whether an expression makes an assertion in front of all characters that it takes, or, backward,
behind them. -/
def asserts (backward : Bool) (wanted : Assertion) : Regex → Bool
  | .empty => false
  | .literal _ => false
  | .set _ => false
  | .assertion a => a = wanted
  | .sequence parts =>
    let sides := partsAssert backward wanted parts []
    leads (if backward then sides else sides.reverse)
  | .choice branches => allAssert backward wanted branches
  | .repetition body least _ _ => least != 0 && body.asserts backward wanted
  | .capture _ body => body.asserts backward wanted

/-- For each part whether it makes the assertion and whether it is idle, the last part first. -/
def partsAssert (backward : Bool) (wanted : Assertion) :
    List Regex → (done : List (Bool × Bool)) → List (Bool × Bool)
  | [], done => done
  | part :: rest, done =>
    partsAssert backward wanted rest ((part.asserts backward wanted, part.isIdle) :: done)

/-- Whether all branches make the assertion. -/
def allAssert (backward : Bool) (wanted : Assertion) : List Regex → Bool
  | [] => true
  | branch :: rest => branch.asserts backward wanted && allAssert backward wanted rest

end

mutual

/-- Whether two expressions are the same. -/
def same : Regex → Regex → Bool
  | .empty, .empty => true
  | .literal a, .literal b => a == b
  | .set a, .set b => a == b
  | .assertion a, .assertion b => a == b
  | .sequence as, .sequence bs => areSame as bs
  | .choice as, .choice bs => areSame as bs
  | .repetition a least most reluctant, .repetition b least' most' reluctant' =>
    least == least' && most == most' && reluctant == reluctant' && same a b
  | .capture i a, .capture j b => i == j && same a b
  | _, _ => false

/-- Whether two lists of expressions are the same. -/
def areSame : List Regex → List Regex → Bool
  | [], [] => true
  | a :: as, b :: bs => same a b && areSame as bs
  | _, _ => false

end

/-! ### Making expressions -/

/-- The expression for one character of a set. -/
def ofSet (chars : CharSet) : Regex :=
  match chars.only? with
  | some c => .literal [c]
  | none => .set chars

/-- The parts that an expression adds to a sequence. -/
def parts : Regex → List Regex
  | .empty => []
  | .sequence inTurn => inTurn
  | part => [part]

/-- A part in front of others; two literals become one. -/
def followedBy : Regex → List Regex → List Regex
  | .literal text, .literal more :: rest => .literal (text ++ more) :: rest
  | part, rest => part :: rest

/-- Expressions one behind the other. -/
def ofParts (inTurn : List Regex) : Regex :=
  match (inTurn.flatMap parts).foldr followedBy [] with
  | [] => .empty
  | [part] => part
  | merged => .sequence merged

/-- The branches that an expression adds to a choice. -/
def branches : Regex → List Regex
  | .choice options => options
  | branch => [branch]

/-- The character of a literal of one character. -/
def char? : Regex → Option Char
  | .literal [c] => some c
  | _ => none

/-- The set of an expression that is one. -/
def set? : Regex → Option CharSet
  | .set chars => some chars
  | _ => none

/-- The parts of an expression that is a sequence. -/
def sequence? : Regex → Option (List Regex)
  | .sequence inTurn => some inTurn
  | _ => none

/-- A choice that is simpler than a choice: of no or one branch, of characters or of sets. -/
def simpleChoice? : List Regex → Option Regex
  | [] => some (.set .empty)
  | [branch] => some branch
  | options =>
    match options.mapM char? with
    | some chars => some (ofSet (.unions (chars.map .single)))
    | none => (options.mapM set?).map fun sets => ofSet (.unions sets)

/-- What two lists of expressions begin with. -/
def commonFront : List Regex → List Regex → List Regex
  | a :: as, b :: bs => if same a b then a :: commonFront as bs else []
  | _, _ => []

/-- What all branches begin with, and what follows in each, if all are sequences and begin alike. -/
def splitFront? (options : List Regex) : Option (List Regex × List Regex) :=
  match options.mapM sequence? with
  | some (first :: rest) =>
    let front := rest.foldl commonFront first
    if front.isEmpty then none
    else some (front, (first :: rest).map fun inTurn => ofParts (inTurn.drop front.length))
  | _ => none

/-- One of several expressions. What follows a common front has no common front itself. -/
def ofBranches (options : List Regex) : Regex :=
  let flat := options.flatMap branches
  match simpleChoice? flat with
  | some simple => simple
  | none =>
    match splitFront? flat with
    | some (front, rest) =>
      let rest := rest.flatMap branches
      ofParts (front ++ [(simpleChoice? rest).getD (.choice rest)])
    | none => .choice flat

/-- An expression a number of times. -/
def repeated (body : Regex) (least : Nat) (most : Option Nat) (reluctant : Bool) : Regex :=
  let idle := body.isIdle
  let least := if idle then min least 1 else least
  let most := if idle then some (min (most.getD 1) 1) else most
  if least = 0 ∧ most = some 0 then .empty
  else if least = 1 ∧ most = some 1 then body
  else .repetition body least most reluctant

end Regex
end Condition
