import LineShell.Command.Basic
import LineShell.Lookup

/-! # External commands

A name that is no builtin means an executable file, which runs as a child with the words of the
line, the environment of the session and the session's directory.  Everything that the shell has
written is passed on before the child starts. -/

namespace LineShell

/-- The status `127` of a command that cannot be found or started. -/
def Status.notFound : Status := 127

/-- The status that a child's `Ending` gives: its code, or `128` more than the signal. -/
def Ending.status : Ending → Status
  | exited code => code
  | killed signal => 128 + signal

namespace External

variable {σ : Type} [Console σ] [Machine σ]

/-- What the shell asks for when it runs the program at `path` with some words, in the session
    `s`. -/
def request (s : Session) (path : Octets) (words : List String) : Request where
  program := path
  arguments := words
  environment := s.vars
  directory := s.dir

/-- Run a child for the command `name`: flush, `Act.spawn` it and tell its status.  A child that
    could not be started is reported; one that is lost ends the command with the fault of
    `Act.spawn`. -/
def execute (name : String) (r : Request) : Act σ Status := do
  Act.flush
  let outcome ← Act.spawn r
  match outcome with
  | .ok ending =>
    Act.note (.ended r.program ending)
    return ending.status
  | .error e =>
    Act.note (.spawnFailed r.program e)
    Act.say [name, ": command not found\n"]
    return Status.notFound

/-- The factory of external commands, which looks a name up with `Lookup.command?`. -/
def factory : Factory σ where
  create? s w name words :=
    (Lookup.command? w s.searchPath s.dir (Octets.ofText name)).map fun path =>
      { findings := [.resolved name path], execute := execute name (request s path words) }

end External

end LineShell
