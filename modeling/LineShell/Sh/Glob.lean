import LineShell.Files.Walk
import LineShell.Sh.Fields
import LineShell.Sh.Parts

/-! # Names of files

A field with a pattern in it stands for the paths that it matches, if there are any.  A pattern is
matched piece by piece between slashes; names that begin with a dot are matched only by a dot that
is written. -/

namespace LineShell.Sh.Glob

/-- Cut a field, as it is spelled, at each `/`. -/
def segments : List Char → List (List Char)
  | [] => [[]]
  | '/' :: cs | '\\' :: '/' :: cs => [] :: segments cs
  | '\\' :: c :: cs => prepend ['\\', c] (segments cs)
  | c :: cs => prepend [c] (segments cs)
where
  /-- Put characters in front of the first part. -/
  prepend (front : List Char) : List (List Char) → List (List Char)
    | [] => [front]
    | s :: ss => (front ++ s) :: ss

/-- The name that a part without a pattern spells. -/
def name : List Char → List Char
  | '\\' :: c :: cs => c :: name cs
  | c :: cs => c :: name cs
  | [] => []

/-- The names in a directory that a pattern matches; one that begins with `.` is hidden unless the
    pattern does, too. -/
def matching (v : View) (loc : Location) (p : List Atom) : List Octets :=
  (["." , ".."] ++ v.entries loc).filter fun name =>
    Pattern.accepts p name.toList && (name.toList.head? ≠ some '.' || p.head? = some (.char '.'))

/-- The paths that the rest of a field matches, after the path `base`. -/
def pathsFrom (v : View) (dir : Location) (base : Octets) :
    List (List Char) → List Octets
  | [] => []
  | s :: rest =>
    let here := if base = "" then "." else base
    let pattern := Pattern.ofSpelled s
    let names := if Pattern.isOpen pattern then
        match v.open? dir here with
        | .ok (loc, .directory) => matching v loc pattern
        | _ => []
      else [String.ofList (name s)]
    names.flatMap fun name =>
      let path := base ++ name
      if rest.isEmpty then
        if Pattern.isOpen pattern then [path]
        else if name = "" then
          match v.open? dir here with
          | .ok (_, .directory) => [base]
          | _ => []
        else match v.find false dir path with
          | .ok ⟨_, some _⟩ => [path]
          | _ => []
      else pathsFrom v dir (path ++ "/") rest

/-- The paths that a field matches, in order; none if it holds no pattern, such as `*`. -/
def paths (v : View) (dir : Location) (field : Field) : List Octets :=
  if !field.any fun (s, active) => active && s.any (· ∈ ['*', '?', '[']) then []
  else
    let parts := segments (Pattern.spelled field.marked)
    if parts.any fun s => Pattern.isOpen (Pattern.ofSpelled s) then
      (pathsFrom v dir "" parts).mergeSort fun a b => a ≤ b
    else []

end LineShell.Sh.Glob
