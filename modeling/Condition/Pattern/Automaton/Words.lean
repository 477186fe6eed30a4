import Condition.Pattern.Automaton.Basic

/-!
# Automata of words

A choice of words is made as a tree, in which words share what they begin with. Where a word ends,
the arcs so far are closed: words that come later do not share what follows, since of two ways to
match the first one counts. The arcs of a node are in the order of their bytes.
-/

namespace Condition.Automaton

/-- A tree of words: the arcs since a word last ended at this node, and what was there before. -/
inductive WordTree where
  | bare
  | arc (byte : Nat) (below beside : WordTree)
  | stop (earlier : WordTree)

namespace WordTree

/-- A tree of one word. -/
def ofWord (word : List Nat) : WordTree :=
  word.foldr (fun byte below => .arc byte below .bare) (.stop .bare)

/-- Ends a word at a node. A second end changes nothing where no word goes on. -/
def stopped : WordTree → WordTree
  | .stop .bare => .stop .bare
  | tree => .stop tree

/-- A tree with another word. -/
def insert : WordTree → List Nat → WordTree
  | tree, [] => tree.stopped
  | .arc byte below beside, first :: rest =>
    if first = byte then .arc byte (insert below rest) beside
    else if first < byte then .arc first (ofWord rest) (.arc byte below beside)
    else .arc byte below (insert beside (first :: rest))
  | .bare, first :: rest => .arc first (ofWord rest) .bare
  | .stop earlier, first :: rest => .arc first (ofWord rest) (.stop earlier)

/-- Whether no word goes on from a node. -/
def isLeaf : WordTree → Bool
  | .bare => true
  | .arc _ _ _ => false
  | .stop earlier => earlier.isLeaf

/-- The links of a fork with a state for some arcs, of which the last one comes first. -/
def withArcs (links : List Nat) : List Arc → Making (List Nat)
  | [] => return links
  | [way] => do return (← add (.arc way)) :: links
  | ways => do return (← add (.table ways.reverse)) :: links

/-- The state of a node, with the arcs since a word last ended there and the links that were made so
far. Every word ends at `finish`. -/
def make (finish : Nat) : WordTree → (arcs : List Arc) → (links : List Nat) → Making Nat
  | .bare, arcs, links => do
    let links ← withArcs links arcs
    add (.fork links)
  | .stop earlier, arcs, links => do
    let links ← withArcs links arcs
    make finish earlier [] (finish :: links)
  | .arc byte below beside, arcs, links => do
    let next ← if below.isLeaf then pure finish else make finish below [] []
    make finish beside (⟨⟨byte, byte⟩, next⟩ :: arcs) links

end WordTree

/-- One of some words. -/
def anyWord (words : List (List Nat)) : Making Fragment := do
  let finish ← add (.skip 0)
  let first ← (words.foldl WordTree.insert .bare).make finish [] []
  return ⟨first, finish⟩

end Condition.Automaton
