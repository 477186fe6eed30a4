import Condition.Pattern.Automaton.Basic
import Std.Data.HashMap

/-!
# Automata of sets

A set of characters is a part of an automaton that takes the bytes of one character. The characters
of ASCII need one table. Other sets are made from the sequences of byte ranges that they are
(`Utf8.sequences`): forward, a sequence shares its front with the sequence before it, and a state is
made once all its arcs are known; backward, every sequence has a branch of its own. States that
would be made a second time are shared, as far as they are remembered: what was made is kept in a
number of slots, by a hash of what it is, and a slot holds the last one only.
-/

namespace Condition.Automaton

/-- States that were made for what a key says, by the slot of the key. -/
abbrev Slots (κ : Type) := Std.HashMap Nat (κ × Nat)

/-- Making a part of an automaton with states to share. -/
abbrev Sharing (κ : Type) := StateT (Slots κ) Making

/-- The slot of some numbers, one of `count`. The hash of the numbers takes each of them in by an
exclusive or and a product with a fixed prime, modulo two to the sixty-fourth power. -/
def slotOf (count : Nat) (numbers : List Nat) : Nat :=
  let hash : UInt64 := numbers.foldl
    (fun hash number => (hash ^^^ number.toUInt64) * 1099511628211) 14695981039346656037
  hash.toNat % count

/-- The state for a key: the one in its slot, if that was made for this key, or else a new one. -/
def shared {κ : Type} [DecidableEq κ] (slot : Nat) (key : κ) (make : Making Nat) :
    Sharing κ Nat := fun slots => do
  let remade : Making (Nat × Slots κ) := do
    let state ← make
    return (state, slots.insert slot (key, state))
  match slots[slot]? with
  | some (found, state) => if found = key then return (state, slots) else remade
  | none => remade

/-- The sequences of byte ranges of the members of a set. -/
def sequences (chars : CharSet) : List (List Utf8.ByteRange) :=
  chars.ranges.flatMap fun range => Utf8.sequences range.1 range.2

/-- A set of characters of ASCII. -/
def ofAsciiSet (chars : CharSet) : Making Fragment :=
  anyByte (chars.ranges.map fun range => ⟨range.1, range.2⟩)

/-! ### Forward -/

/-- A state in the making: its arcs so far, the last one first, and the bytes of the arc that leads
to what is made at the moment. -/
structure OpenState where
  arcs : List Arc
  last : Utf8.ByteRange

/-- A table of arcs. -/
def table (arcs : List Arc) : Sharing (List Arc) Nat :=
  let numbers := arcs.flatMap fun way => [way.bytes.first, way.bytes.last, way.next]
  shared (slotOf 10000 numbers) arcs (add (.table arcs))

/-- Makes the states of a list, each of which leads to the next one, and the last one to
`finish`. -/
def closed (finish : Nat) : List OpenState → Sharing (List Arc) Nat
  | [] => return finish
  | state :: deeper => do
    let next ← closed finish deeper
    table (⟨state.last, next⟩ :: state.arcs).reverse

/-- Adds a sequence behind all sequences so far. -/
def withSequence (finish : Nat) : List OpenState → List Utf8.ByteRange →
    Sharing (List Arc) (List OpenState)
  | state :: deeper, range :: ranges =>
    if state.last = range then do
      let deeper ← withSequence finish deeper ranges
      return state :: deeper
    else do
      let next ← closed finish deeper
      return ⟨⟨state.last, next⟩ :: state.arcs, range⟩ :: ranges.map fun range => ⟨[], range⟩
  | _, ranges => return ranges.map fun range => ⟨[], range⟩

/-- The first state of sequences behind some open states. -/
def ofSequences (finish : Nat) :
    List OpenState → List (List Utf8.ByteRange) → Sharing (List Arc) Nat
  | states, [] => closed finish states
  | states, sequence :: rest => do
    let states ← withSequence finish states sequence
    ofSequences finish states rest

/-- A set of characters, forward. -/
def ofSetForward (chars : CharSet) : Making Fragment := do
  let finish ← add (.skip 0)
  let (first, _) ← (ofSequences finish [] (sequences chars)).run ∅
  return ⟨first, finish⟩

/-! ### Backward -/

/-- A byte in front of a state. -/
def byteBefore (target : Nat) (range : Utf8.ByteRange) : Sharing (Nat × Utf8.ByteRange) Nat :=
  shared (slotOf 1000 [target, range.first, range.last]) (target, range)
    (add (.arc ⟨range, target⟩))

/-- The bytes of a sequence in front of a state, so that the last byte is taken first. -/
def sequenceBefore : (target : Nat) → List Utf8.ByteRange → Sharing (Nat × Utf8.ByteRange) Nat
  | target, [] => return target
  | target, range :: ranges => do
    let state ← byteBefore target range
    sequenceBefore state ranges

/-- Links a fork to sequences in front of a state. -/
def addSequences (fork finish : Nat) : List (List Utf8.ByteRange) →
    Sharing (Nat × Utf8.ByteRange) Unit
  | [] => return ()
  | sequence :: rest => do
    let first ← sequenceBefore finish sequence
    link fork first
    addSequences fork finish rest

/-- A set of characters, backward. -/
def ofSetBackward (chars : CharSet) : Making Fragment := do
  let fork ← add (.fork [])
  let finish ← add (.skip 0)
  let _ ← (addSequences fork finish (sequences chars)).run ∅
  return ⟨fork, finish⟩

/-- A character of a set. -/
def ofSet (backward : Bool) (chars : CharSet) : Making Fragment :=
  if chars.isAscii then ofAsciiSet chars
  else if backward then ofSetBackward chars
  else ofSetForward chars

end Condition.Automaton
