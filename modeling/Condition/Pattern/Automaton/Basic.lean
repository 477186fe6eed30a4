import Condition.Pattern.Assertion
import Condition.Pattern.Utf8

/-!
# Automata

An automaton reads the bytes of a text. A state waits for a byte (`arc`, `table`), checks an
assertion, leads on without a byte (`skip`, `fork`), or accepts. An automaton is made in a draft, to
which states and links are added one by one. Each takes room, which is counted in bytes: a state
takes the room of its fixed parts, and more for each arc of a table and each link of a fork. A draft
never takes more than `roomLimit`.
-/

namespace Condition

namespace Automaton

/-- A way over a byte. -/
structure Arc where
  bytes : Utf8.ByteRange
  next : Nat
  deriving DecidableEq, Repr

/-- A state. -/
inductive State where
  | skip (next : Nat)
  | arc (way : Arc)
  | table (ways : List Arc)
  | check (a : Assertion) (next : Nat)
  | fork (nexts : List Nat)
  | accept
  deriving Repr

end Automaton

/-- States, and the one to start from. -/
structure Automaton where
  states : Array Automaton.State
  start : Nat

namespace Automaton

-- Powers are those of core, whatever other instances are in scope.
attribute [local instance (high)] instPowNat instNatPowNat

/-- The room that a state takes when it is added. -/
def State.room : State → Nat
  | .table ways => 32 + 8 * ways.length
  | .fork nexts => 32 + 4 * nexts.length
  | _ => 32

/-- The room that another link from a state takes: a fork keeps all its links, any other state has
room for one. -/
def State.linkRoom : State → Nat
  | .fork _ => 4
  | _ => 0

/-- A state that leads on to another one, too. Tables and accepting states stay as they are. -/
def State.linkedTo (target : Nat) : State → State
  | .skip _ => .skip target
  | .arc way => .arc { way with next := target }
  | .table ways => .table ways
  | .check a _ => .check a target
  | .fork nexts => .fork (target :: nexts)
  | .accept => .accept

/-- How much room an automaton may take: ten times the number of bytes that twenty bits can
count. -/
def roomLimit : Nat := 10 * 2 ^ (20 : Nat)

/-- An automaton in the making: its states so far, and the room that they take. -/
structure Draft where
  states : Array State
  room : Nat

/-- A draft without states. -/
def Draft.empty : Draft := ⟨#[], 0⟩

/-- Making a part of an automaton, which fails where the room does not suffice. -/
abbrev Making := StateT Draft Option

/-- Adds a state and gives its number. -/
def add (state : State) : Making Nat := fun draft =>
  let room := draft.room + state.room
  if room ≤ roomLimit then some (draft.states.size, ⟨draft.states.push state, room⟩) else none

/-- Lets a state lead on to another one. -/
def link (source target : Nat) : Making Unit := fun draft =>
  match draft.states[source]? with
  | none => some ((), draft)
  | some state =>
    let room := draft.room + state.linkRoom
    if room ≤ roomLimit then
      some ((), ⟨draft.states.setIfInBounds source (state.linkedTo target), room⟩)
    else none

/-! ### Fragments -/

/-- A part of an automaton, from the state where it is entered to the one where it is left. -/
structure Fragment where
  first : Nat
  last : Nat

/-- A fragment of one state. -/
def single (state : State) : Making Fragment := do
  let number ← add state
  return ⟨number, number⟩

/-- A fragment that takes nothing. -/
def nothing : Making Fragment := single (.skip 0)

/-- A fragment that takes a byte. -/
def byte (range : Utf8.ByteRange) : Making Fragment := single (.arc ⟨range, 0⟩)

/-- A fragment that takes a byte from one of several ranges. -/
def anyByte (ranges : List Utf8.ByteRange) : Making Fragment := do
  let finish ← add (.skip 0)
  let table ← add (.table (ranges.map fun range => ⟨range, finish⟩))
  return ⟨table, finish⟩

/-- Fragments behind a fragment. -/
def chain : Fragment → List (Making Fragment) → Making Fragment
  | whole, [] => return whole
  | whole, next :: rest => do
    let part ← next
    link whole.last part.first
    chain ⟨whole.first, part.last⟩ rest

/-- Fragments one behind the other. -/
def inTurn : List (Making Fragment) → Making Fragment
  | [] => nothing
  | first :: rest => do
    let begun ← first
    chain begun rest

/-- Further branches between a fork and the state where branches end. -/
def addBranches (fork finish : Nat) : List (Making Fragment) → Making Unit
  | [] => return ()
  | branch :: rest => do
    let part ← branch
    link fork part.first
    link part.last finish
    addBranches fork finish rest

/-- One of several fragments. -/
def anyOf : List (Making Fragment) → Making Fragment
  | [] => single (.fork [])
  | [only] => only
  | first :: second :: rest => do
    let one ← first
    let other ← second
    let fork ← add (.fork [])
    let finish ← add (.skip 0)
    link fork one.first
    link one.last finish
    link fork other.first
    link other.last finish
    addBranches fork finish rest
    return ⟨fork, finish⟩

/-! ### Repetitions -/

/-- Copies of a fragment behind a fragment. -/
def chainCopies (body : Making Fragment) : (count : Nat) → Fragment → Making Fragment
  | 0, whole => return whole
  | count + 1, whole => do
    let part ← body
    link whole.last part.first
    chainCopies body count ⟨whole.first, part.last⟩

/-- Copies of a fragment one behind the other. -/
def copies (body : Making Fragment) : (count : Nat) → Making Fragment
  | 0 => nothing
  | count + 1 => do
    let begun ← body
    chainCopies body count begun

/-- A fragment that may be left out. -/
def optional (body : Making Fragment) : Making Fragment := do
  let fork ← add (.fork [])
  let part ← body
  let finish ← add (.skip 0)
  link fork part.first
  link fork finish
  link part.last finish
  return ⟨fork, finish⟩

/-- A fragment any number of times. If it takes a byte each time, one fork is enough. -/
def anyTimes (takesInput : Bool) (body : Making Fragment) : Making Fragment :=
  if takesInput then do
    let fork ← add (.fork [])
    let part ← body
    link fork part.first
    link part.last fork
    return ⟨fork, fork⟩
  else do
    let part ← body
    let again ← add (.fork [])
    link part.last again
    link again part.first
    let fork ← add (.fork [])
    let finish ← add (.skip 0)
    link fork part.first
    link fork finish
    link again finish
    return ⟨fork, finish⟩

/-- A fragment at least once, behind `before` copies of it. -/
def onceOrMore (body : Making Fragment) (before : Nat) : Making Fragment := do
  if before = 0 then
    let part ← body
    let fork ← add (.fork [])
    link part.last fork
    link fork part.first
    return ⟨part.first, fork⟩
  else
    let begun ← copies body before
    let part ← body
    let fork ← add (.fork [])
    link begun.last part.first
    link part.last fork
    link fork part.first
    return ⟨begun.first, fork⟩

/-- Copies of a fragment, each of which can be left out with all that follow it, behind a state. -/
def optionalCopies (body : Making Fragment) (finish : Nat) :
    (count : Nat) → (last : Nat) → Making Nat
  | 0, last => return last
  | count + 1, last => do
    let fork ← add (.fork [])
    let part ← body
    link last fork
    link fork part.first
    link fork finish
    optionalCopies body finish count part.last

/-- A fragment a number of times between two bounds. -/
def between (body : Making Fragment) (least most : Nat) : Making Fragment := do
  let begun ← copies body least
  let finish ← add (.skip 0)
  let last ← optionalCopies body finish (most - least) begun.last
  link last finish
  return ⟨begun.first, finish⟩

/-- A fragment a number of times. -/
def times (takesInput : Bool) (body : Making Fragment) (least : Nat) (most : Option Nat) :
    Making Fragment :=
  match least, most with
  | 0, some 1 => optional body
  | 0, none => anyTimes takesInput body
  | before + 1, none => onceOrMore body before
  | least, some most => if least = most then copies body least else between body least most

end Automaton
end Condition
