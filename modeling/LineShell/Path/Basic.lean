import LineShell.Text.Pieces

/-! # Paths as text

A path is kept as the text it was given as, and is never tidied up behind the user's back.  What
it means is read off its `components`: repeated and trailing slashes do not count, and neither does
a `.` except where a relative path begins.

* `join dir name`   the path that `name` means inside `dir`
* `parent? p`       the path without its last component -/

namespace LineShell.Path

/-- A step of a path. -/
inductive Component where
  /-- The root, where an absolute path begins. -/
  | root
  /-- A `.` where a relative path begins. -/
  | here
  /-- `..`, the directory above. -/
  | up
  /-- A named entry. -/
  | entry (name : String)
  deriving DecidableEq, Repr

/-- Does the path begin at the root? -/
def isAbsolute (p : String) : Bool := p.toList.head? == some '/'

/-- A piece between slashes that names no step: it is empty, or a `.`. -/
def isIdle (piece : String) : Bool := piece == "" || piece == "."

/-- The step that a piece names: `up` for `..`, and else an entry. -/
def Component.ofPiece (piece : String) : Component :=
  if piece = ".." then .up else .entry piece

/-- The steps of a path.  A `.` counts only where a relative path begins. -/
def components (p : String) : List Component :=
  let ps := Text.pieces '/' p
  let first := if isAbsolute p then [.root] else if ps.head? = some "." then [.here] else []
  first ++ (ps.filter (!isIdle ·)).map Component.ofPiece

/-- The path that `name` means inside `dir`: `name` itself if it is absolute, otherwise both with
    one slash between them, unless `dir` is empty or ends in a slash. -/
def join (dir name : String) : String :=
  if isAbsolute name then name
  else if dir = "" ∨ dir.toList.getLast? = some '/' then dir ++ name
  else dir ++ "/" ++ name

/-- The part of a path that removing components leaves alone, and the rest. -/
def anchor (p : String) : String × String :=
  if isAbsolute p then ("/", String.ofList p.toList.tail)
  else if (Text.pieces '/' p).head? = some "." then (".", String.ofList p.toList.tail)
  else ("", p)

/-- The path without its last component and what hangs loose after it; `none` if the path is
    empty or the root. -/
def parent? (p : String) : Option String :=
  let (fixed, rest) := anchor p
  match (Text.pieces '/' rest).reverse.dropWhile isIdle with
  -- A leading `.` is a component of its own, and the last one to be removed.
  | [] => if fixed = "." then some "" else none
  | _ :: before => some (fixed ++ Text.join '/' (before.dropWhile isIdle).reverse)

end LineShell.Path
