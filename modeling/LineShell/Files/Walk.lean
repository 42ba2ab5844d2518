import LineShell.Files.Tree
import LineShell.Path.Basic

/-! # Walking a path through the file tree

`View.find` follows a path from a directory to a location, through symbolic links, the way the
machine does: a step leads out of a directory only, `..` is taken after links are followed, and a
walk that meets more than forty links is given up.

A walk may end at a location that holds nothing, as long as only the last step leads there: that is
where a file can be made.

A `View` is what somebody sees of the files: a file tree, and perhaps more that the machine shows
only to some. -/

namespace LineShell

/-- The end of a walk: a `Location` and what it holds. -/
structure Found where
  location : Location
  node : Option Node
  deriving DecidableEq, Repr

/-- The files as somebody sees them.  Not every process sees the same below `/proc`. -/
structure View where
  /-- What a location holds. -/
  node? : Location → Option Node
  /-- The names of the entries of a directory. -/
  entries : Location → List Octets
  /-- Is the file at a location open to be written? -/
  isWritten : Location → Bool := fun _ => false

namespace View

/-- How many links a walk may follow before it is a `linkLoop`. -/
def linkLimit : Nat := 40

/-- The most bytes in one name: more are `nameTooLong`. -/
def nameLimit : Nat := 255

/-- The most bytes in a path: more are `nameTooLong`, too. -/
def pathLimit : Nat := 4095

/-- Walk along the pieces of a path from `here`, with `links` links still allowed.  The last piece
    is followed if it is a link and `follow` is set. -/
def walk (v : View) (follow : Bool) (links : Nat) (here : Location) :
    List Octets → Except Errno Found
  | [] => .ok ⟨here, v.node? here⟩
  | piece :: rest =>
    -- A walk goes on from a directory only, even for a piece that names no step.
    if v.node? here ≠ some .directory then
      .error (if (v.node? here).isSome then .notDirectory else .noEntry)
    else if Path.isIdle piece then v.walk follow links here rest
    else if piece = ".." then v.walk follow links here.tail rest
    else if piece.length > nameLimit then .error .nameTooLong
    else
      match v.node? (piece :: here) with
      -- Only the last piece may be missing; a trailing slash puts an empty piece after it.
      | none => if rest.isEmpty then .ok ⟨piece :: here, none⟩ else .error .noEntry
      | some (.link target) =>
        if rest.isEmpty && !follow then .ok ⟨piece :: here, some (.link target)⟩
        else
          match links with
          | 0 => .error .linkLoop
          | links + 1 =>
            -- The target stands in place of the link, and what follows the link goes on from it.
            v.walk follow links (if Path.isAbsolute target then [] else here)
              (Text.pieces '/' target ++ rest)
      | some _ => v.walk follow links (piece :: here) rest
  termination_by pieces => (links, pieces.length)

/-- The location that a path leads to from `dir`. -/
def find (v : View) (follow : Bool) (dir : Location) (path : Octets) : Except Errno Found :=
  if path = "" then .error .noEntry
  else if path.length > pathLimit then .error .nameTooLong
  else v.walk follow linkLimit (if Path.isAbsolute path then [] else dir) (Text.pieces '/' path)

/-- The location and the node that a path leads to from `dir`, through every link. -/
def open? (v : View) (dir : Location) (path : Octets) : Except Errno (Location × Node) := do
  match ← v.find true dir path with
  | ⟨loc, some n⟩ => .ok (loc, n)
  | ⟨_, none⟩ => .error .noEntry

end View

namespace FileTree

/-- A file tree as it is, as a `View` of whoever sees nothing else. -/
def view (t : FileTree) : View where
  node? := t.node?
  entries := t.entries

/-- The location that a path leads to from `dir` in a file tree. -/
def find (t : FileTree) (follow : Bool) (dir : Location) (path : Octets) : Except Errno Found :=
  t.view.find follow dir path

/-- The location and the node that a path leads to from `dir` in a file tree. -/
def open? (t : FileTree) (dir : Location) (path : Octets) : Except Errno (Location × Node) :=
  t.view.open? dir path

end FileTree

end LineShell
