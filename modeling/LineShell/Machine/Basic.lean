import LineShell.Fault
import LineShell.Process.Launch

/-! # The machine the shell runs on

All that the shell asks of its machine: what a path leads to, and to run a child.  The shell is
written against the class `Machine`, so that what is proved of it holds on every machine.

Paths are `Octets`, as the machine has them: a name need not be text.

A child that has been started may still be lost: the machine can fail to tell how it ended.  That is
no `Outcome` but a `Fault`. -/

namespace LineShell

/-- What the machine reports about the file that a path leads to. -/
structure FileStatus where
  isDirectory : Bool
  mode : Nat
  deriving DecidableEq, Repr

/-- What the shell asks for when it starts a child: the path of its `program`, the words that follow
    it, its `environment` and the path of the `directory` to start in. -/
structure Request where
  program : Octets
  arguments : List String
  environment : List (String × String)
  directory : Octets
  deriving DecidableEq, Repr

/-- Does the text, or the path, hold a NUL? No path and no word of a child may. -/
def hasNul (s : String) : Bool := s.toList.contains '\x00'

/-- All texts of a request. -/
def Request.texts (r : Request) : List String :=
  r.program :: r.directory :: r.arguments ++ r.environment.flatMap fun v => [v.1, v.2]

/-- Why a child could not be started. -/
inductive SpawnError where
  /-- The path, a word, the environment or the directory holds a NUL, which cannot be passed on. -/
  | nul
  | system (e : Errno)
  deriving DecidableEq, Repr

/-- What the shell's log says about a child that could not be started. -/
def SpawnError.message : SpawnError → String
  | .nul => "nul byte found in provided data"
  | .system e => e.message

/-- How an attempt to run a child went that the machine can tell about: the child ended, or it could
    not be started, for the reason of a `SpawnError`. -/
abbrev Outcome := Except SpawnError Ending

/-- A machine with states of type `η`. -/
class Machine (η : Type) where
  /-- What a path leads to, through links, as the shell's own process sees it. -/
  status? : η → Octets → Option FileStatus
  /-- Start a child and wait for its end.  A fault means that the child was started and then lost:
      waiting for its end has failed. -/
  spawn : Request → η → Except Fault Outcome × η

namespace Machine

variable {η : Type} [Machine η]

/-- Does the path lead to something other than a directory that somebody may execute, so that `mode`
    has one of the bits of `0o111`? -/
def isExecutable (w : η) (path : Octets) : Bool :=
  match status? w path with
  | some s => !s.isDirectory && s.mode &&& 0o111 != 0
  | none => false

/-- Does the path lead to a directory? -/
def isDirectory (w : η) (path : Octets) : Bool :=
  match status? w path with
  | some s => s.isDirectory
  | none => false

/-- A machine may stand beside something else. -/
instance {ω : Type} : Machine (ω × η) where
  status? p path := status? p.2 path
  spawn r p :=
    let (outcome, w) := spawn r p.2
    (outcome, (p.1, w))

end Machine

end LineShell
