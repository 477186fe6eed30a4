import Condition.Pattern.Automaton.Basic

/-!
# Running automata

A text is a list of places: the places between two characters, where assertions can hold, and those
between the bytes of one character. At each place the states are entered that the last byte led to,
and with them all states that they lead on to without a byte; then the byte behind the place is
taken. The automaton finds a match as soon as an accepting state is entered.

A state is entered once at a place, so that a run takes no more steps than the text has bytes for
each link of the automaton.
-/

namespace Condition.Automaton

/-- A place in a text: the characters on its sides, if it lies between characters, and the byte
behind it. -/
structure Place where
  sides : Option Sides
  byte : Option Nat

/-- The places of the rest of a text behind a character. -/
def placesBehind (before : Option Char) : Text → List Place
  | [] => [⟨some ⟨before, none⟩, none⟩]
  | c :: rest =>
    match Utf8.bytes c.toNat with
    | [] => placesBehind (some c) rest
    | first :: others =>
      ⟨some ⟨before, some c⟩, some first⟩ :: others.map (fun byte => ⟨none, some byte⟩) ++
        placesBehind (some c) rest

/-- What was entered at a place: for each state the number of the last place where it was entered,
the states that wait for a byte, and whether a state accepted. -/
structure Front where
  seen : Array Nat
  waiting : List State
  accepted : Bool

/-- The states that a state leads on to without a byte. -/
def State.onward (sides : Option Sides) : State → List Nat
  | .skip next => [next]
  | .check a next => if sides.any fun sides => a.holds sides then [next] else []
  | .fork nexts => nexts
  | _ => []

/-- Whether a state waits for a byte. -/
def State.waits : State → Bool
  | .arc _ => true
  | .table _ => true
  | _ => false

/-- Whether a state accepts. -/
def State.accepts : State → Bool
  | .accept => true
  | _ => false

/-- The states that a state leads to over a byte. -/
def State.over (byte : Nat) : State → List Nat
  | .arc way => if way.bytes.contains byte then [way.next] else []
  | .table ways => (ways.filter (·.bytes.contains byte)).map (·.next)
  | _ => []

/-- Enters a state at the place with a number. -/
def Front.enter (front : Front) (number place : Nat) (state : State) : Front :=
  ⟨front.seen.setIfInBounds number place,
    if state.waits then state :: front.waiting else front.waiting,
    front.accepted || state.accepts⟩

/-- Enters states, and those that they lead on to, unless they were entered at this place before. -/
def Front.enterAll (states : Array State) (place : Nat) (sides : Option Sides) :
    (fuel : Nat) → (pending : List Nat) → Front → Front
  | 0, _, front => front
  | _, [], front => front
  | fuel + 1, number :: pending, front =>
    match states[number]?, front.seen[number]? with
    | some state, some last =>
      if last = place then enterAll states place sides fuel pending front
      else
        enterAll states place sides fuel (state.onward sides ++ pending)
          (front.enter number place state)
    | _, _ => enterAll states place sides fuel pending front

/-- Whether a match is found from some pending states on. Places are counted from one, so a state
that was never entered can be noted as entered at place zero. -/
def findsFrom (automaton : Automaton) (room : Nat) :
    (place : Nat) → List Place → (seen : Array Nat) → (pending : List Nat) → Bool
  | _, [], _, _ => false
  | place, here :: rest, seen, pending =>
    let front := Front.enterAll automaton.states place here.sides (room + pending.length) pending
      ⟨seen, [], false⟩
    if front.accepted then true
    else
      match here.byte with
      | none => false
      | some byte =>
        findsFrom automaton room (place + 1) rest front.seen
          (front.waiting.flatMap (State.over byte))

/-- The number of links of a state. -/
def State.linkCount : State → Nat
  | .table ways => ways.length
  | .fork nexts => nexts.length
  | _ => 1

/-- Whether an automaton finds a match in a text. -/
def finds (automaton : Automaton) (text : Text) : Bool :=
  let links := (automaton.states.map State.linkCount).foldl (· + ·) 0
  findsFrom automaton links 1 (placesBehind none text) (Array.replicate automaton.states.size 0)
    [automaton.start]

end Condition.Automaton
