import LineShell.Errno

/-! # Faults

A fault is a failure of the surroundings, or of a command that knows no better answer: it ends a
turn without a status.  Failures that the shell reports as a status are no faults. -/

namespace LineShell

/-- Why a turn ends without a status. -/
inductive Fault where
  /-- A stream refused a write, a flush or a read, in the words of whoever keeps it. -/
  | stream (text : String)
  /-- The machine refused. -/
  | system (e : Errno)
  /-- A command gave up. -/
  | command (text : String)
  /-- A line could not be read. -/
  | unreadable (cause : Fault)
  /-- The current directory could not be found out. -/
  | nowhere (cause : Fault)
  deriving DecidableEq, Repr

/-- The text of a `Fault`, with those of its causes after it. -/
def Fault.message : Fault → String
  | .stream text | .command text => text
  | .system e => e.message
  | .unreadable cause => "failed to read input line: " ++ cause.message
  | .nowhere cause => "cannot determine the current directory: " ++ cause.message

end LineShell
