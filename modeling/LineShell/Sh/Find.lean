import LineShell.Sh.Process

/-! # How programs are found

A program is looked for in the directories of the search path, and the process remembers in which of
them it has found it.  What it remembers counts until the search path is set anew; once the process
has gone elsewhere it looks again, but relies on directories that do not depend on where it stands. -/

namespace LineShell.Sh.Process

/-- The search path for programs where nobody has chosen another one. -/
def standardPath : Octets := "/usr/local/sbin:/usr/local/bin:/usr/sbin:/usr/bin:/sbin:/bin"

/-- The search path for programs, if there is any: `PATH`, or the `standardPath` if that is asked
    for. -/
def searchPath (p : Process) (standard : Bool) : Option Octets :=
  if standard then some standardPath else p.value? "PATH"

/-- The paths that a command name could mean in a search path, in order; with a slash it is a path
    itself. -/
def candidates (searchPath : Option Octets) (name : Octets) : List Octets :=
  if name.toList.contains '/' then [name]
  else match searchPath with
    | none => []
    | some dirs =>
      (Text.pieces ':' dirs).map fun dir => if dir = "" then name else dir ++ "/" ++ name

/-- Is there a program at a path?  If there is not, `e` is what has been amiss before. -/
def probe (p : Process) (e : Errno) (path : Octets) : Except Errno Unit :=
  match p.open? path with
  | .ok (_, n@(.file ..)) | .ok (_, n@(.tool _)) =>
    if n.mode &&& 0o111 ≠ 0 then .ok () else .error .permission
  | .ok _ => .error .permission
  | .error .noEntry | .error .notDirectory => .error e
  | .error f => .error f

/-- Which of some paths is the first with a program, where one at `known` has been found before. -/
def seek (p : Process) (known : Option Nat) (paths : List Octets) : Except Errno Nat :=
  go .noEntry 0 paths
where
  /-- The same from the path with the number `n` on, where `e` is what has been amiss so far. -/
  go (e : Errno) (n : Nat) : List Octets → Except Errno Nat
    | [] => .error e
    | path :: rest =>
      if Path.isAbsolute path && known.any (n < ·) then go e (n + 1) rest
      else if Path.isAbsolute path && known == some n then .ok n
      else match p.probe e path with
        | .ok () => .ok n
        | .error e => go e (n + 1) rest

/-- What is remembered of a program, by `track`. -/
def tracked? (p : Process) (name : Octets) : Option Tracked := p.tracked.find? (·.name == name)

/-- Remember where a program has been found.  One that is new comes last. -/
def track (p : Process) (t : Tracked) : Process :=
  { p with tracked :=
      if (p.tracked? t.name).isSome then p.tracked.map fun s => if s.name = t.name then t else s
      else p.tracked ++ [t] }

/-- Remember nothing of a program: undo `track`. -/
def untrack (p : Process) (name : Octets) : Process :=
  { p with tracked := p.tracked.filter (·.name != name) }

/-- In which directory of the search path a program is, by `seek`, and what is remembered after it
    has been looked for.  Nothing is, of one that is found in the `standardPath`. -/
def locate (p : Process) (standard : Bool) (name : Octets) : Except Errno Nat × Process :=
  let paths := candidates (p.searchPath standard) name
  if standard then (p.seek none paths, p)
  else match p.tracked? name with
    | some { place, stale := false, .. } => (.ok place, p)
    | before => match p.seek (before.map (·.place)) paths with
      | .ok place => (.ok place, p.track { name, place })
      | .error e => (.error e, p.untrack name)

/-- Why a program cannot be run: `not found`, or `Errno.text`. -/
def amiss (e : Errno) : Octets :=
  if e = .noEntry || e = .notDirectory then "not found" else e.text

/-- Load the first program at some paths that a command name could mean; a file without an
    interpreter, `Errno.execFormat`, is taken as a script.  An error comes with the status that it
    gives, 126 or 127. -/
def load (p : Process) (paths : List Octets) (name : Octets) (words : List Octets) :
    Except (Octets × Nat) Image :=
  go .noEntry paths
where
  /-- The same, where `e` is what has been amiss so far. -/
  go (e : Errno) : List Octets → Except (Octets × Nat) Image
    | [] =>
      let isMissing := e ∈ [.noEntry, .notDirectory, .linkLoop, .nameTooLong]
      .error (name ++ ": " ++ amiss e, if isMissing then 127 else 126)
    | path :: rest =>
      match Image.load p.view p.directory path name words p.environment with
      | .ok image => .ok image
      | .error .execFormat => .ok (Image.ofTool .sh "/bin/sh" (path :: words))
      | .error found => go (if found = .noEntry || found = .notDirectory then e else found) rest

end LineShell.Sh.Process
