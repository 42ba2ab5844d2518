import LineShell.Machine.Basic
import LineShell.Path.Basic

/-! # Looking up a command

The file that a command name means.  A name that consists of one entry is looked for in the
directories of a search path, which are separated by colons; any other name is a path of its own,
from the current directory.  `candidates` lists the files that a name could mean, and `command?`
takes the first that can be executed.

* `command?_eq`   what a name means is the first of its `candidates` that can be executed -/

namespace LineShell.Lookup

open Machine (isExecutable)

/-- The files named `name` in the directories of `searchPath`, in order.  Empty directory names do
    not count. -/
def inSearchPath (searchPath name : Octets) : List Octets :=
  ((Text.pieces ':' searchPath).filter (· != "")).map (Path.join · name)

/-- The files that the command name `name` could mean from the directory `cwd`, in order. -/
def candidates (searchPath cwd name : Octets) : List Octets :=
  match Path.components name with
  | [] => []
  | [.entry single] => inSearchPath searchPath single
  | _ => [Path.join cwd name]

section

variable {η : Type} [Machine η] (w : η)

/-- The first executable file named `name` in `searchPath`. -/
def inSearchPath? (searchPath name : Octets) : Option Octets :=
  (inSearchPath searchPath name).find? (isExecutable w)

/-- The executable file that a command name means: the name of an entry is looked for with
    `inSearchPath?`, and any other name is tried from the directory `cwd`. -/
def command? (searchPath cwd name : Octets) : Option Octets :=
  match Path.components name with
  | [] => none
  | [.entry single] => inSearchPath? w searchPath single
  | _ => if isExecutable w (Path.join cwd name) then some (Path.join cwd name) else none

/-- What a name means is the first of its `candidates` that can be executed. -/
theorem command?_eq (searchPath cwd name : Octets) :
    command? w searchPath cwd name = (candidates searchPath cwd name).find? (isExecutable w) := by
  unfold command? candidates
  split
  · rfl
  · rfl
  · cases h : isExecutable w (Path.join cwd name) <;> simp [h]

end

end LineShell.Lookup
