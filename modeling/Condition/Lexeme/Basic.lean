import Condition.Text

/-!
# Lexemes

A lexeme is a word, a number, a quoted string or a single other character, as it stands in the text,
with the place where it starts. What such pieces mean is a matter of tokens.
-/

namespace Condition

/-- What sort of piece a lexeme is. -/
inductive Lexeme.Kind where
  | endOfText
  | word
  | integer
  | decimal
  | quoted
  | single (c : Char)
  deriving DecidableEq, Repr

/-- A piece of text with its place, which counts characters. Only the end of the text is empty. -/
structure Lexeme where
  kind : Lexeme.Kind
  text : Text
  position : Nat
  nonempty : kind ≠ .endOfText → text ≠ []
  deriving DecidableEq

namespace Lexeme

/-- Whether the lexeme is this one character. -/
def isSingle (lexeme : Lexeme) (c : Char) : Bool := lexeme.kind == .single c

/-- Whether the lexeme is the end of the text. -/
def isEnd (lexeme : Lexeme) : Bool := lexeme.kind == .endOfText

/-- Whether the lexeme is a number. -/
def isNumber (lexeme : Lexeme) : Bool := lexeme.kind == .integer || lexeme.kind == .decimal

theorem length_pos {lexeme : Lexeme} (h : lexeme.kind ≠ .endOfText) : 0 < lexeme.text.length :=
  List.length_pos_iff.2 (lexeme.nonempty h)

theorem length_pos_of_isSingle {lexeme : Lexeme} {c : Char} (h : lexeme.isSingle c = true) :
    0 < lexeme.text.length := by
  apply length_pos
  simp only [isSingle, beq_iff_eq] at h
  simp [h]

end Lexeme

/-- A passage that runs to a closing delimiter. -/
inductive Passage where
  | stringLiteral
  | pattern
  | subQuery
  | arrayLiteral
  | text
  deriving DecidableEq, Repr

/-- The name of a passage. -/
def Passage.name : Passage → String
  | .stringLiteral => "string literal"
  | .pattern => "pattern"
  | .subQuery => "sub-query"
  | .arrayLiteral => "array literal"
  | .text => "text"

/-- What a reference to a query may lack. -/
inductive SubQueryFault where
  | noBody
  | openMode
  deriving DecidableEq, Repr

/-- The name of a fault. -/
def SubQueryFault.reason : SubQueryFault → String
  | .noBody => "missing '('"
  | .openMode => "missing ']' after mode"

/-- Why a text does not split into tokens. -/
inductive Lexeme.Error where
  | illegal (text : Text) (position : Nat)
  | unterminated (passage : Passage) (position : Nat)
  | malformedSubQuery (fault : SubQueryFault) (position : Nat)
  | putBackTwice
  | nothingToPutBack
  | lexemeWaiting
  deriving DecidableEq, Repr

/-- The text of an error. -/
def Lexeme.Error.message : Lexeme.Error → String
  | .illegal text position => s!"illegal token '{String.ofList text}' at position {position}"
  | .unterminated passage position =>
    s!"unterminated {passage.name} starting at position {position}"
  | .malformedSubQuery fault position =>
    s!"malformed sub-query at position {position}: {fault.reason}"
  | .putBackTwice => "unscan called twice without an intervening scan"
  | .nothingToPutBack => "unscan called with no scanned token to replay"
  | .lexemeWaiting => "raw read requested while a token is waiting to be replayed"

end Condition
