import Condition.CommandLine

/-!
# The command `cond`

Reads the standard input where the command needs it and it is no terminal, and writes what the
command answers.
-/

open Condition

/-- Runs the command line of the process. -/
def main (args : List String) : IO UInt32 := do
  let stdin ← IO.getStdin
  let args := args.map String.toList
  let needed := (CommandLine.Parser.read args).toOption.any CommandLine.Command.needsInput
  let input ←
    if needed && !(← stdin.isTty) then
      let mut text := ""
      let mut line ← stdin.getLine
      while !line.isEmpty do
        text := text ++ line
        line ← stdin.getLine
      pure (some text.toList)
    else pure none
  let answer := CommandLine.run args input
  (← IO.getStdout).putStr answer.output
  (← IO.getStderr).putStr answer.errors
  return answer.status.toUInt32
