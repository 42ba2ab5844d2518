import LineShell.Machine.Basic

/-! # A machine that knows what it was told

A `Catalog` lists what paths lead to and how programs end.  Its programs leave no trace, and a path
that is not listed leads nowhere.  A `forgetful` one loses its children: it cannot tell how they
ended. -/

namespace LineShell

/-- A machine that lists its files. -/
structure Catalog where
  /-- What paths lead to. -/
  paths : List (Octets × FileStatus) := []
  /-- How programs end, by their paths. -/
  programs : List (Octets × Ending) := []
  /-- Are children gone before anybody has waited for them? -/
  forgetful : Bool := false
  deriving DecidableEq, Repr

namespace Catalog

/-- What a path leads to, if it is among `paths`. -/
def status? (c : Catalog) (path : Octets) : Option FileStatus := c.paths.lookup path

/-- Run a program, if it is among `programs`.  The child of a `forgetful` machine is lost. -/
def spawn (r : Request) (c : Catalog) : Except Fault Outcome × Catalog :=
  match c.programs.lookup r.program with
  | some ending => (if c.forgetful then .error (.system .noChild) else .ok (.ok ending), c)
  | none => (.ok (.error (.system .execFormat)), c)

instance : Machine Catalog := ⟨status?, spawn⟩

end Catalog

end LineShell
