import Condition.Check

/-!
# Commands

`cond check` evaluates a condition, `cond tokens` lists its tokens. A parser that is not part of
this library says which of them a line of arguments asks for; to a line that asks for help or for
the version, or does not fit, it gives an answer of its own.

`CommandLine.run` is the whole command as a function: from the arguments and the standard input to
the status and the two outputs. An error of the command ends it with the status 1.
-/

namespace Condition

namespace Check

/-- Whether a check takes its arguments from the standard input. -/
def Options.needsInput (options : Options) : Bool := options.args.isNone && !options.formOnly

/-- The options with the standard input, if they need it. -/
def Options.withInput (options : Options) (input : Option Text) : Options :=
  if options.needsInput then { options with args := input } else options

end Check

namespace CommandLine

/-- What a command line asks for. -/
inductive Command where
  | check (options : Check.Options)
  | tokens (expression : Text)

/-- How a command ends, and what it writes; the lines of the log are left out. -/
structure Answer where
  status : Nat
  output : String
  errors : String

/-- **A parser of command lines**: the command that a line of arguments asks for, or what answers a
line that asks for none. A check has arguments where the line gives them by their option, and is one
of the form only where the flag for that is given. -/
class Parser where
  read : List Text → Except Answer Command

/-- A command that writes lines and succeeds. -/
def Answer.ofLines (lines : List String) : Answer :=
  ⟨0, String.join (lines.map (· ++ "\n")), ""⟩

/-- Whether a command needs the standard input. -/
def Command.needsInput : Command → Bool
  | .check options => options.needsInput
  | .tokens _ => false

/-- The line that a finding makes. -/
def findingLine : Check.Finding → String
  | .wellFormed => "Syntax is valid"
  | .result b => toString b

variable [Pattern.Engine]

/-- A command that fails: its error and, line by line, what is behind it. -/
def Answer.ofError (error : Check.Error) : Answer :=
  ⟨1, "", String.join (s!"error: {error.message}\n" ::
    error.causes.map fun cause => s!"  caused by: {cause}\n")⟩

/-- A check: the line of what it finds, or its error. -/
def Answer.ofCheck : Except Check.Error Check.Finding → Answer
  | .ok finding => .ofLines [findingLine finding]
  | .error e => .ofError e

variable [Json.Parser]

/-- What a command does with the standard input, if there is one to be read. -/
def Command.answer (input : Option Text) : Command → Answer
  | .check options => .ofCheck (Check.run (options.withInput input))
  | .tokens expression =>
    match Check.listTokens expression with
    | .ok lines => .ofLines (lines.map String.ofList)
    | .error e => .ofError e

/-- The whole command: arguments and standard input to status and outputs. -/
def run [Parser] (args : List Text) (input : Option Text) : Answer :=
  match Parser.read args with
  | .ok command => command.answer input
  | .error answer => answer

end CommandLine
end Condition
