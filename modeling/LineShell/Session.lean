import LineShell.Text.Octets

/-! # Sessions

What a shell remembers between turns: the environment that it was started with, the directory that
`cd` has reached, the exit that `exit` has asked for, and the names of its builtins. -/

namespace LineShell

/-- The status that a command ends with: `0` for success, anything else for a failure. -/
abbrev Status := Int

/-- The state of a session. -/
structure Session where
  /-- The environment.  Nothing changes it; children get all of it. -/
  vars : List (String × String) := []
  /-- The path of the current directory.  Only `cd` changes it. -/
  dir : Octets
  /-- The status that `exit` has asked to end with. -/
  pendingExit : Option Status := none
  /-- The names of the builtins, which `type` knows. -/
  builtins : List String := []
  deriving DecidableEq, Repr

namespace Session

/-- The value of a variable of the environment `vars`. -/
def var? (s : Session) (name : String) : Option String := s.vars.lookup name

/-- The search path for commands: the octets of the value of `PATH`. -/
def searchPath (s : Session) : Octets := Octets.ofText ((s.var? "PATH").getD "")

/-- Is the word among the `builtins` of the session? -/
def isBuiltin (s : Session) (name : String) : Bool := s.builtins.contains name

end Session

end LineShell
