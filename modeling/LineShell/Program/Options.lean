import LineShell.Command.Arguments

/-! # The command line

The words that the program is called with: two options and a request for help.  No other word is
taken. -/

namespace LineShell

/-- What the words of the command line ask for. -/
structure Options where
  prompt : String := "$ "
  /-- Read plain lines even from a terminal. -/
  noEditor : Bool := false
  deriving DecidableEq, Repr

namespace Options

/-- The description of the command line, for `--help`. -/
def usage : String :=
  "Usage: myshell [--prompt <prompt>] [--no-editor]\n\nA small interactive shell.\n\nOptions:\n" ++
  "  --prompt          text shown before every input line.\n" ++
  "  --no-editor       read plain lines even when standard input is a terminal.\n" ++
  "  --help, help      display usage information\n"

/-- What the words read so far have said, as the `grammar` changes it. -/
structure Reading where
  prompt : Option String := none
  noEditor : Bool := false

/-- What the program takes: its switches, and no operands. -/
def grammar : Arguments.Grammar Reading where
  usage := usage
  switch? w := if w = "--no-editor" then some fun r => { r with noEditor := true } else none
  valued? w :=
    if w = "--prompt" then
      some fun value r => if r.prompt.isSome then none else some { r with prompt := some value }
    else none

/-- Read the words of a command line with the `grammar`. -/
def read (words : List String) : Except Arguments.Stop Options :=
  (grammar.read {} words).map fun r => { prompt := r.prompt.getD "$ ", noEditor := r.noEditor }

end Options

end LineShell
