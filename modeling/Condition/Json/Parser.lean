import Condition.Json.Reading

/-!
# Parsers of JSON

Arguments and array literals are JSON texts, and a parser that is not part of this library reads
them. All that is known of it is which value it makes of a text, if any. A parser is `Standard` if
it follows the grammar of JSON in some dialect.
-/

namespace Condition.Json

/-- **A parser of JSON**: the value that it makes of a whole text, if it accepts the text. -/
class Parser where
  read? : Text → Option Json

export Parser (read?)

/-- **A parser that follows the grammar**: it converts numerals in its own way, and has a limit of
its own on the depth of a value. -/
class Parser.Standard [Parser] : Prop where
  exists_dialect : ∃ dialect : Dialect, ∀ text, read? text = dialect.read? text

end Condition.Json
