import Condition.Command
import Condition.Json.Numbers
import Condition.Pattern.Automata

/-!
# The command line

A parser of command lines to run the library with, beside the parser of JSON and the engine of
patterns. Options may stand before or behind the condition; a value follows its option as the next
argument, or joined to it, and must not look like an option itself. Everything behind `--` is no
option. A line that does not fit ends with the status 2.
-/

namespace Condition.CommandLine

-- Powers are those of core, whatever other instances are in scope.
attribute [local instance (high)] instPowNat instNatPowNat Int.instNatPow

/-- Whether an argument can be a value: it is no option. A single hyphen is a value. -/
def isPlain (arg : Text) : Bool := arg.head? != some '-' || arg == ['-']

/-- The value of an option and the arguments behind it; the value may be joined to the option. -/
def takeValue (joined : Option Text) (rest : List Text) : Option (Text × List Text) :=
  match joined, rest with
  | some value, rest => some (value, rest)
  | none, value :: rest => if isPlain value then some (value, rest) else none
  | none, [] => none

/-- A long option split at the first equals sign. -/
def splitLong (option : Text) : Text × Option Text :=
  match option.dropWhile (· ≠ '=') with
  | [] => (option, none)
  | _ :: value => (option.takeWhile (· ≠ '='), some value)

/-- The integer of 64 bits that a text spells, maybe with a sign. -/
def readInt (text : Text) : Option Int :=
  let negative := text.head? == some '-'
  let digits := if negative || text.head? == some '+' then text.tail else text
  if digits.isEmpty || !digits.all Char.isDigit then none
  else
    let size : Int := Text.digitsValue digits
    let n := if negative then -size else size
    if -2 ^ (63 : Nat) ≤ n ∧ n < 2 ^ (63 : Nat) then some n else none

/-- What the arguments of a subcommand have given so far. -/
structure Given where
  expression : Option Text := none
  args : Option Text := none
  formOnly : Bool := false
  precedence : Option Int := none
  verbose : Bool := false

/-- The options that take a value. -/
inductive Valued where
  | args
  | precedence

/-- The option that takes a value, by its long name. -/
def valued? (checking : Bool) (name : Text) : Option Valued :=
  if !checking then none
  else if name = "args".toList then some .args
  else if name = "precedence".toList then some .precedence
  else none

/-- An option with its value added; none may come twice. -/
def Given.withValue? (given : Given) (value : Text) : Valued → Option Given
  | .args => if given.args.isSome then none else some { given with args := some value }
  | .precedence =>
    if given.precedence.isSome then none
    else (readInt value).map fun n => { given with precedence := some n }

/-- A flag added, by its long name; none may come twice. -/
def Given.withFlag? (checking : Bool) (given : Given) (name : Text) : Option Given :=
  if name = "verbose".toList then
    if given.verbose then none else some { given with verbose := true }
  else if checking && name = "syntax-only".toList then
    if given.formOnly then none else some { given with formOnly := true }
  else none

/-- The condition added; there is one only. -/
def Given.withExpression? (given : Given) (text : Text) : Option Given :=
  if given.expression.isSome then none else some { given with expression := some text }

/-- What a line asks for: a command, or else help or the version. -/
inductive Asked where
  | command (command : Command)
  | help
  | version

/-- What a reading of arguments comes to, if they fit: what was given, or a request for help. -/
inductive Reached where
  | given (g : Given)
  | help

/-- Short options joined behind one hyphen: what they give, and a value that is still to come. -/
def readShort (checking : Bool) (given : Given) : Text → Option (Reached × Option (Option Text))
  | [] => some (.given given, none)
  | 'h' :: _ => some (.help, none)
  | 'v' :: rest => do readShort checking (← given.withFlag? checking "verbose".toList) rest
  | 'a' :: rest =>
    if !checking then none
    else match rest with
      | [] => some (.given given, some none)
      | '=' :: value => some (.given given, some (some value))
      | value => some (.given given, some (some value))
  | _ => none

/-- The arguments of a subcommand; `checking` tells which. -/
def readGiven (checking : Bool) : (fuel : Nat) → Given → List Text → Option Reached
  | _, given, [] => some (.given given)
  | 0, _, _ :: _ => none
  | fuel + 1, given, arg :: rest =>
    match arg with
    | ['-', '-'] => (rest.foldlM Given.withExpression? given).map .given
    | '-' :: '-' :: long =>
      let (name, joined) := splitLong long
      match valued? checking name with
      | some option => do
        let (value, rest) ← takeValue joined rest
        readGiven checking fuel (← given.withValue? value option) rest
      | none =>
        if joined.isSome then none
        else if name = "help".toList then some .help
        else do readGiven checking fuel (← given.withFlag? checking name) rest
    | '-' :: first :: more => do
      match ← readShort checking given (first :: more) with
      | (.help, _) => return .help
      | (.given given, none) => readGiven checking fuel given rest
      | (.given given, some joined) => do
        let (value, rest) ← takeValue joined rest
        readGiven checking fuel (← given.withValue? value .args) rest
    | plain => do readGiven checking fuel (← given.withExpression? plain) rest

/-- The arguments behind the name of a subcommand. -/
def readSubcommand (checking : Bool) (args : List Text) : Option Asked :=
  match readGiven checking args.length {} args with
  | some (.given given) =>
    given.expression.map fun expression =>
      .command (if checking then .check ⟨expression, given.args, given.formOnly, given.precedence⟩
        else .tokens expression)
  | some .help => some .help
  | none => none

/-- The first short options of a line: what they ask for, or that the flag for more output was
given. -/
def readFirstShort (verbose : Bool) : Text → Option (Option Asked × Bool)
  | [] => some (none, verbose)
  | 'V' :: _ => some (some .version, verbose)
  | 'h' :: _ => some (some .help, verbose)
  | 'v' :: rest => if verbose then none else readFirstShort true rest
  | _ => none

/-- What a line of arguments asks for, behind flags read so far. -/
def readLine (verbose : Bool) : List Text → Option Asked
  | [] => none
  | arg :: rest =>
    if arg = "check".toList then readSubcommand true rest
    else if arg = "tokens".toList then readSubcommand false rest
    else if arg = "help".toList then some .help
    else if arg = "--version".toList then some .version
    else if arg = "--help".toList then some .help
    else if arg = "--verbose".toList then if verbose then none else readLine true rest
    else match arg with
      | '-' :: '-' :: _ => none
      | '-' :: first :: more =>
        match readFirstShort verbose (first :: more) with
        | some (some asked, _) => some asked
        | some (none, verbose) => readLine verbose rest
        | none => none
      | _ => none

/-- The answer to a line that asks for help or the version, or does not fit. -/
def Asked.command? : Option Asked → Except Answer Command
  | some (.command asked) => .ok asked
  | some .help => .error (.ofLines ["Usage: cond [OPTIONS] <COMMAND>"])
  | some .version => .error (.ofLines ["cond 0.1.0"])
  | none => .error ⟨2, "", "error: the arguments do not fit\n"⟩

/-- The parser that reads lines this way. -/
instance Parser.plain : Parser := ⟨fun args => Asked.command? (readLine false args)⟩

end Condition.CommandLine
