import Condition.Text

/-!
# Patterns

A pattern is a regular expression, compiled by an engine that is not part of this library. All that
is known of an engine is how it is used: it compiles a text or refuses it, gives the text of what it
has compiled, and tells whether that matches somewhere in a text. The law that `source_of_ofText?`
and `ofText?_source` rest on is that the text of what was compiled is the one it was compiled from
(`Engine.Lawful`).
-/

namespace Condition

/-- **An engine of regular expressions.** -/
class Pattern.Engine where
  /-- What the engine compiles texts to. -/
  Compiled : Type
  /-- What a text is compiled to, if it spells a regular expression. -/
  compile? : Text → Option Compiled
  /-- The text of what was compiled. -/
  source : Compiled → Text
  /-- Whether what was compiled matches somewhere in a text. -/
  finds : Compiled → Text → Bool

/-- **An engine that keeps the texts** it compiles. -/
class Pattern.Engine.Lawful [Pattern.Engine] : Prop where
  source_of_compile? : ∀ {text : Text} {compiled : Compiled},
    compile? text = some compiled → source compiled = text

variable [Pattern.Engine]

/-- A regular expression that the engine has compiled from some text. -/
structure Pattern where
  compiled : Pattern.Engine.Compiled
  isCompiled : ∃ text, Pattern.Engine.compile? text = some compiled

namespace Pattern

/-- The pattern that a text spells. -/
def ofText? (text : Text) : Option Pattern :=
  match h : Engine.compile? text with
  | some compiled => some ⟨compiled, text, h⟩
  | none => none

/-- The text of a pattern. -/
def source (pattern : Pattern) : Text := Engine.source pattern.compiled

/-- Whether a pattern matches somewhere in a text. -/
def matchesIn (pattern : Pattern) (text : Text) : Bool := Engine.finds pattern.compiled text

theorem ofText?_eq_some_iff {text : Text} {pattern : Pattern} :
    ofText? text = some pattern ↔ Engine.compile? text = some pattern.compiled := by
  obtain ⟨compiled, isCompiled⟩ := pattern
  unfold ofText?
  split
  · rename_i found h
    simp [h]
  · rename_i h
    simp [h]

variable [Engine.Lawful]

theorem source_of_ofText? {text : Text} {pattern : Pattern} (h : ofText? text = some pattern) :
    pattern.source = text :=
  Engine.Lawful.source_of_compile? (ofText?_eq_some_iff.1 h)

/-- A pattern is compiled again from its text. -/
theorem ofText?_source (pattern : Pattern) : ofText? pattern.source = some pattern := by
  obtain ⟨text, h⟩ := pattern.isCompiled
  have hsource : pattern.source = text := Engine.Lawful.source_of_compile? h
  rw [ofText?_eq_some_iff, hsource, h]

/-- Patterns with the same text are the same. -/
theorem ext_source {a b : Pattern} (h : a.source = b.source) : a = b := by
  have hb := ofText?_source b
  rw [← h, ofText?_source a] at hb
  exact Option.some.inj hb

end Pattern
end Condition
