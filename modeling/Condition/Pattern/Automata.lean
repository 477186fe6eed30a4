import Condition.Pattern
import Condition.Pattern.Automaton.Making
import Condition.Pattern.Automaton.Running
import Condition.Pattern.Reading

/-!
# Patterns by automata

An engine of regular expressions to run the library with. It compiles an expression to an automaton
that finds it, and refuses one that does not fit the room of an automaton in both directions. Of the
classes of characters that have a name it knows some only, and refuses an expression with any other.
-/

namespace Condition

/-- The automaton that a text spells, if the text is a regular expression and not too large. -/
def Automaton.ofText? (source : Text) : Option Automaton := do
  let regex ← Regex.ofText? source
  let automaton ← Automaton.ofRegex? false regex
  let _ ← Automaton.ofRegex? true regex
  return automaton

/-- A regular expression as written, with its automaton. -/
structure Automaton.Spelled where
  source : Text
  automaton : Automaton

/-- The engine that runs automata. -/
instance Pattern.Engine.automata : Pattern.Engine where
  Compiled := Automaton.Spelled
  compile? source := (Automaton.ofText? source).map (Automaton.Spelled.mk source)
  source := Automaton.Spelled.source
  finds spelled := spelled.automaton.finds

instance Pattern.Engine.lawful_automata : Pattern.Engine.Lawful where
  source_of_compile? h := by
    obtain ⟨automaton, -, rfl⟩ := Option.map_eq_some_iff.1 h
    rfl

end Condition
