import Condition.Evaluation
import Condition.Expr.Reading
import Condition.Query.Path.Reading

/-!
# Checking a condition

A check reads a condition and evaluates it with arguments given as JSON text. Its stages come in a
fixed order, and the first that fails decides: the version of the precedence, the condition, the
text of the arguments, their form, the evaluation. A check of the form only stops behind the
condition.
-/

namespace Condition

namespace Check

/-- What is to be checked. -/
structure Options where
  expression : Text
  args : Option Text := none
  formOnly : Bool := false
  precedence : Option Int := none

/-- What a check finds. -/
inductive Finding where
  | wellFormed
  | result (b : Bool)
  deriving DecidableEq, Repr

variable [Pattern.Engine]

/-- Why a command fails. -/
inductive Error where
  | precedence (version : Int)
  | parse (failure : Expr.ReadFailure Path)
  | tokens (error : Lexeme.Error)
  | json
  | args (error : Args.Error)
  | evaluation (failure : Failure Operator Evaluation.Error)

/-- The text of an error, which names the stage. -/
def Error.message : Error → String
  | .precedence version => s!"unknown precedence version {version}, expected 0 or 1"
  | .parse _ => "parse error"
  | .tokens _ => "tokenize error"
  | .json => "invalid JSON arguments"
  | .args _ => "invalid arguments"
  | .evaluation _ => "evaluation error"

/-- The settings with a version of the precedence, the standard one if none is given. -/
def settings (version : Option Int) : Except Error (Settings Path) :=
  match version with
  | none => .ok { engine := some Path.ofText }
  | some version =>
    match Precedence.ofVersion? version with
    | some precedence => .ok { precedence := precedence, engine := some Path.ofText }
    | none => .error (.precedence version)

/-- The arguments that a text spells; there are none if it is blank or missing. -/
def readArgs [Json.Parser] (text : Option Text) : Except Error Args :=
  match Text.trimmed Text.isBlank (text.getD []) with
  | [] => .ok []
  | trimmed =>
    match Json.read? trimmed with
    | none => .error .json
    | some json => (Args.ofJson json).mapError .args

/-- What the check of some options finds. -/
def run [Json.Parser] (options : Options) : Except Error Finding := do
  let settings ← settings options.precedence
  let tree ← (Expr.ofText settings options.expression).result.mapError .parse
  if options.formOnly then return .wellFormed
  else
    let args ← readArgs options.args
    let result ← (tree.evaluate args).result.mapError .evaluation
    return .result result

/-- The listing of the tokens of a text. -/
def listTokens (text : Text) : Except Error (List Text) :=
  match Token.listOf text with
  | .ok tokens => .ok (tokens.map Token.line)
  | .error e => .error (.tokens e)

end Check

/-! ### Causes -/

/-- The texts of what is behind an error of a reading: the error of a query, or what is wrong with
an array. -/
def Expr.Error.causes [Pattern.Engine] {Q : Type} : Expr.Error Q → List String
  | .subQuery _ e => [e.message]
  | .invalidArray _ => ["the literal is not valid JSON"]
  | _ => []

/-- The texts of what is behind an error of an evaluation: the error of a query, or what is wrong
with a pattern. -/
def Evaluation.Error.causes : Evaluation.Error → List String
  | .subQuery _ e => [e.message]
  | .invalidPattern _ => ["the pattern is not a valid regular expression"]
  | _ => []

/-- What is said when an operator is being applied. -/
def applyingMessage (op : Operator) : String := s!"cannot apply {String.ofList op.symbol}"

/-- The texts of what is behind an error of a command, the outermost first. -/
def Check.Error.causes [Pattern.Engine] : Check.Error → List String
  | .precedence _ => []
  | .parse failure =>
    failure.contexts.map Expr.Context.message ++ failure.cause.message :: failure.cause.causes
  | .tokens e => [e.message]
  | .json => ["the text is not valid JSON"]
  | .args e => [e.message]
  | .evaluation failure =>
    failure.contexts.map applyingMessage ++ failure.cause.message :: failure.cause.causes

end Condition
