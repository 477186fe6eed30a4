import Condition.Operator
import Condition.Text.Quoted

/-!
# Tokens

A condition is a sequence of tokens: parentheses, operands and operators. A token keeps the text of
its operand as written: a string with its delimiters, an array without its brackets, a query as it
stood between its parentheses. Three ways to show a token: `display` as in a condition, `described`
as a term, and `line` as an entry of a listing.
-/

namespace Condition

/-- A token of a condition. -/
inductive Token where
  | endOfInput
  | leftParen
  | rightParen
  | name (text : Text)
  | string (text : Text)
  | number (text : Text)
  | boolean (b : Bool)
  | array (payload : Text)
  | subQuery (query : Text) (mode : Option Text)
  | operator (op : Operator)
  deriving DecidableEq

namespace Token

/-- The keyword of a truth value. -/
def booleanText (b : Bool) : Text :=
  if b then ['T', 'R', 'U', 'E'] else ['F', 'A', 'L', 'S', 'E']

/-- A query with its mode, if it has one. -/
def subQueryText (query : Text) (mode : Option Text) : Text :=
  ['$', 'j', 'q'] ++ mode.elim [] (fun mode => '[' :: mode ++ [']']) ++ '(' :: query ++ [')']

/-- A token as it stands in a condition. -/
def display : Token → Text
  | .endOfInput => "end of input".toList
  | .leftParen => ['(']
  | .rightParen => [')']
  | .name text => text
  | .string text => text
  | .number text => text
  | .boolean b => booleanText b
  | .array payload => '[' :: payload ++ [']']
  | .subQuery query mode => subQueryText query mode
  | .operator op => op.symbol

/-- The name of an operator's token. -/
def operatorName : Operator → String
  | .or => "Or"
  | .xor => "Xor"
  | .and => "And"
  | .nand => "Nand"
  | .equal => "EqEq"
  | .notEqual => "NotEq"
  | .less => "Lt"
  | .atMost => "LtEq"
  | .greater => "Gt"
  | .atLeast => "GtEq"
  | .matching => "Match"
  | .notMatching => "NotMatch"
  | .member => "In"
  | .notMember => "NotIn"

/-- A name applied to a quoted text. -/
def applied (name : String) (text : Text) : Text :=
  name.toList ++ '(' :: Text.quoted text ++ [')']

/-- A token as a term: the name of its sort, and its text in quotes. -/
def described : Token → Text
  | .endOfInput => "Eof".toList
  | .leftParen => "LParen".toList
  | .rightParen => "RParen".toList
  | .name text => applied "Ident" text
  | .string text => applied "String" text
  | .number text => applied "Number" text
  | .boolean b => (if b then "True" else "False").toList
  | .array payload => applied "Array" payload
  | .subQuery query mode =>
    "SubQuery(SubQuerySource \x7b query: ".toList ++ Text.quoted query ++ ", mode: ".toList ++
      mode.elim "None".toList (applied "Some") ++ " \x7d)".toList
  | .operator op => (operatorName op).toList

/-- The heading of a token in a listing, padded to eight characters. -/
def heading : Token → String
  | .endOfInput => "EOF     "
  | .leftParen => "PAREN   "
  | .rightParen => "PAREN   "
  | .name _ => "IDENT   "
  | .string _ => "STRING  "
  | .number _ => "NUMBER  "
  | .boolean _ => "BOOLEAN "
  | .array _ => "ARRAY   "
  | .subQuery _ _ => "SUBQUERY"
  | .operator _ => "OPERATOR"

/-- A token in a listing; the end of the input has a heading only. -/
def line : Token → Text
  | .endOfInput => "EOF".toList
  | token => token.heading.toList ++ ' ' :: token.display

end Token
end Condition
