import Condition.Pattern.CharSet

/-!
# Assertions

What an expression can ask about a place in a text without taking a character. A place is known by
its sides: the character in front of it and the character behind it, where there are any.
-/

namespace Condition

/-- What can be asked about a place and the words of a text. -/
inductive WordEdge where
  | boundary
  | noBoundary
  | start
  | finish
  | startHalf
  | finishHalf
  deriving DecidableEq, Repr

/-- What can be asserted about a place in a text. The words may be those of ASCII only. -/
inductive Assertion where
  | textStart
  | textEnd
  | lineStart
  | lineEnd
  | carriageLineStart
  | carriageLineEnd
  | word (edge : WordEdge) (asciiOnly : Bool)
  deriving DecidableEq, Repr

/-- The characters on the two sides of a place. -/
structure Sides where
  before : Option Char
  after : Option Char

/-- Whether a question about words has the answer yes, given whether the two sides belong to
words. -/
def WordEdge.holds : WordEdge → (before after : Bool) → Bool
  | .boundary, before, after => before != after
  | .noBoundary, before, after => before == after
  | .start, before, after => !before && after
  | .finish, before, after => before && !after
  | .startHalf, before, _ => !before
  | .finishHalf, _, after => !after

/-- Whether an assertion holds at a place. -/
def Assertion.holds (sides : Sides) : Assertion → Bool
  | .textStart => sides.before.isNone
  | .textEnd => sides.after.isNone
  | .lineStart => sides.before.isNone || sides.before == some '\n'
  | .lineEnd => sides.after.isNone || sides.after == some '\n'
  | .carriageLineStart =>
    sides.before.isNone || sides.before == some '\n' ||
      (sides.before == some '\r' && sides.after != some '\n')
  | .carriageLineEnd =>
    sides.after.isNone || sides.after == some '\r' ||
      (sides.after == some '\n' && sides.before != some '\r')
  | .word edge asciiOnly =>
    let chars := if asciiOnly then CharSet.asciiWordChars else CharSet.wordChars
    edge.holds (sides.before.any chars.contains) (sides.after.any chars.contains)

end Condition
