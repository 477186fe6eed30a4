import Condition.Pattern.Automaton.CharSet
import Condition.Pattern.Automaton.Words
import Condition.Pattern.Regex

/-!
# Automata of expressions

The automaton of an expression finds it anywhere in a text: it takes any bytes first, unless every
match is at the start of the text. Backward it reads texts from their end, so all sequences are
turned around. Captures are marked forward only.
-/

namespace Condition.Automaton

/-- The bytes of a text. -/
def bytesOf (text : Text) : List Nat := text.flatMap fun c => Utf8.bytes c.toNat

/-- The text of an expression that is a literal. -/
def literal? : Regex → Option Text
  | .literal text => some text
  | _ => none

/-- A fragment between the marks of a capture. -/
def marked (body : Making Fragment) : Making Fragment := do
  let start ← add (.skip 0)
  let part ← body
  let finish ← add (.skip 0)
  link start part.first
  link part.last finish
  return ⟨start, finish⟩

/-- The bytes of a text in the order in which they are read. -/
def readBytes (backward : Bool) (text : Text) : List Nat :=
  if backward then (bytesOf text).reverse else bytesOf text

mutual

/-- The fragment of an expression. -/
def ofRegex (backward : Bool) : Regex → Making Fragment
  | .empty => nothing
  | .literal text => inTurn ((readBytes backward text).map fun b => byte ⟨b, b⟩)
  | .set chars => ofSet backward chars
  | .assertion a => single (.check a 0)
  | .sequence parts =>
    let fragments := ofEach backward parts []
    inTurn (if backward then fragments else fragments.reverse)
  | .choice branches =>
    match branches.mapM literal? with
    | some words => anyWord (words.map (readBytes backward))
    | none => anyOf (ofEach backward branches []).reverse
  | .repetition body least most _ => times body.takesInput (ofRegex backward body) least most
  | .capture _ body => if backward then ofRegex backward body else marked (ofRegex backward body)

/-- The fragments of some expressions, the last one first. -/
def ofEach (backward : Bool) : List Regex → (done : List (Making Fragment)) → List (Making Fragment)
  | [], done => done
  | part :: rest, done => ofEach backward rest (ofRegex backward part :: done)

end

/-- What is taken in front of a match: any bytes, or nothing where matches begin with the text. -/
def lead (backward : Bool) (regex : Regex) : Making Fragment :=
  if regex.asserts backward (if backward then .textEnd else .textStart) then nothing
  else anyTimes true (anyByte [⟨0, 0xff⟩])

/-- All of an automaton; the state to start from. -/
def whole (backward : Bool) (regex : Regex) : Making Nat := do
  let front ← lead backward regex
  let body ← if backward then ofRegex backward regex else marked (ofRegex backward regex)
  let accept ← add .accept
  link body.last accept
  link front.last body.first
  return front.first

/-- The automaton of an expression, if it does not take too much room. -/
def ofRegex? (backward : Bool) (regex : Regex) : Option Automaton :=
  ((whole backward regex).run .empty).map fun (start, draft) => ⟨draft.states, start⟩

end Condition.Automaton
