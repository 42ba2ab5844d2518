import LineShell.Errno
import LineShell.Text.Octets

/-! # The file tree

A file tree maps locations to nodes.  A `Location` lists the names from a node outward to the
root, so the root is `[]`, an entry of `loc` is `name :: loc` and the directory above is the
tail.  The root is always a directory.  Names, contents and link targets are octet texts. -/

namespace LineShell

/-- A program that the machine can run without reading its file: there is none. -/
inductive Tool where
  /-- The standard shell, which runs scripts. -/
  | sh
  /-- Hands over to another program. -/
  | env
  /-- Makes directories. -/
  | mkdir
  /-- Removes empty directories. -/
  | rmdir
  /-- The line shell itself. -/
  | lineShell
  deriving DecidableEq, Repr

/-- Special files, below `/dev`. -/
inductive Device where
  /-- Takes everything and is empty. -/
  | null
  /-- Has no room for anything, and never ends. -/
  | full
  /-- Takes everything and never ends. -/
  | zero
  /-- Gives what nobody can foresee. -/
  | random
  /-- The terminal of a process, of which there is none. -/
  | terminal
  deriving DecidableEq, Repr

/-- What a `Location` holds. -/
inductive Node where
  | directory
  | file (mode : Nat) (content : Octets)
  | link (target : Octets)
  | pipe (mode : Nat)
  | device (d : Device)
  | tool (t : Tool)
  /-- What the machine tells of a process when it is asked; it counts as empty. -/
  | report (mode : Nat) (text : Octets)
  /-- An open file that has no path of its own, by its number. -/
  | opened (handle : Nat)
  deriving DecidableEq, Repr

/-- The permission bits of a node; a `.file` has bits of its own. -/
def Node.mode : Node → Nat
  | .directory | .tool _ => 0o755
  | .file mode _ | .pipe mode | .report mode _ => mode
  | .link _ => 0o777
  | .device _ => 0o666
  | .opened _ => 0o600

/-- The names from a node outward to the root: that of `/usr/bin` is `["bin", "usr"]`. -/
abbrev Location := List Octets

/-- The absolute path of a location: that of `[]` is `/`. -/
def Location.path (loc : Location) : Octets :=
  if loc.isEmpty then "/" else loc.reverse.foldl (fun p name => p ++ "/" ++ name) ""

/-- A file tree: each `Location` with its `Node`, the root left out. -/
structure FileTree where
  nodes : List (Location × Node) := []
  deriving DecidableEq, Repr

namespace FileTree

/-- The node at a location. -/
def node? (t : FileTree) (loc : Location) : Option Node :=
  if loc = [] then some .directory else t.nodes.lookup loc

/-- Put a node at a location, in place of the one that `node?` found there. -/
def insert (t : FileTree) (loc : Location) (n : Node) : FileTree :=
  ⟨(loc, n) :: t.nodes.filter (·.1 != loc)⟩

/-- Take away a location and everything below it. -/
def prune (t : FileTree) (loc : Location) : FileTree :=
  ⟨t.nodes.filter fun e => !loc.isSuffixOf e.1⟩

/-- The names of the entries of a directory: those `loc` that are one name longer than it. -/
def entries (t : FileTree) (loc : Location) : List Octets :=
  t.nodes.filterMap fun e => match e.1 with
    | name :: above => if above = loc then some name else none
    | [] => none

/-- Is there nothing directly or indirectly below a location? `prune` would take nothing else away
    then. -/
def isEmptyBelow (t : FileTree) (loc : Location) : Bool :=
  t.nodes.all fun e => e.1 == loc || !loc.isSuffixOf e.1

end FileTree

end LineShell
