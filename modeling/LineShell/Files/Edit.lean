import LineShell.Files.Walk

/-! # Changing the file tree

The changes that a machine makes to its files: making directories, files, links and pipes,
writing text, and removing. -/

namespace LineShell.FileTree

/-- Is the location a directory? -/
def isDirectoryAt (t : FileTree) (loc : Location) : Bool := t.node? loc == some .directory

/-- Make the directory that `pieces` leads to from `here`, and those on the way. -/
def makePath (t : FileTree) (here : Location) : List Octets → Except Errno (FileTree × Location)
  | [] => .ok (t, here)
  | piece :: rest =>
    match t.view.walk true View.linkLimit here [piece] with
    | .error e => .error e
    | .ok ⟨loc, some .directory⟩ => t.makePath loc rest
    | .ok ⟨_, some _⟩ => .error .exists_
    | .ok ⟨loc, none⟩ =>
      if loc = piece :: here then (t.insert loc .directory).makePath loc rest else .error .exists_

/-- Make a directory and those on the way to it, with `makePath`. -/
def makeDirectory (t : FileTree) (dir : Location) (path : Octets) : Except Errno FileTree :=
  (t.makePath (if Path.isAbsolute path then [] else dir) (Text.pieces '/' path)).map (·.1)

/-- Write a regular file, in place of what it held.  A file that is not there is made, with the
    permissions `0o644`. -/
def write (t : FileTree) (dir : Location) (path text : Octets) : Except Errno FileTree := do
  match ← t.find true dir path with
  | ⟨loc, none⟩ => .ok (t.insert loc (.file 0o644 text))
  | ⟨loc, some (.file mode _)⟩ => .ok (t.insert loc (.file mode text))
  | ⟨_, some .directory⟩ => .error .isDirectory
  -- What is written to a device or a pipe leaves no trace in the tree.
  | ⟨_, some _⟩ => .ok t

/-- Set the permission bits of the file that a path leads to, to `mode`. -/
def chmod (t : FileTree) (dir : Location) (path : Octets) (mode : Nat) : Except Errno FileTree := do
  match ← t.open? dir path with
  | (loc, .file _ content) => .ok (t.insert loc (.file mode content))
  | (loc, .pipe _) => .ok (t.insert loc (.pipe mode))
  | _ => .ok t

/-- Put the node `n`, a link, a pipe or a directory, where a path leads to; nothing may be there,
    and a link has to lead somewhere. -/
def place (t : FileTree) (dir : Location) (path : Octets) (n : Node) : Except Errno FileTree := do
  if n = .link "" then throw .noEntry
  match ← t.find false dir path with
  | ⟨loc, none⟩ => .ok (t.insert loc n)
  | ⟨_, some _⟩ => .error .exists_

/-- Make a directory, whose path may end with slashes: `place` for the path without them. -/
def addDirectory (t : FileTree) (dir : Location) (path : Octets) : Except Errno FileTree :=
  match path.toList.reverse.dropWhile (· = '/') with
  | [] => t.place dir path .directory
  | bare => t.place dir (String.ofList bare.reverse) .directory

/-- Remove the entry that a path leads to, with everything below it; a link is removed itself. -/
def remove (t : FileTree) (dir : Location) (path : Octets) : Except Errno FileTree := do
  match ← t.find false dir path with
  | ⟨loc, some _⟩ => .ok (t.prune loc)
  | ⟨_, none⟩ => .error .noEntry

/-- Remove an empty directory, which has to be called by its own name and not by `.` or `..`. -/
def removeDirectory (t : FileTree) (dir : Location) (path : Octets) : Except Errno FileTree := do
  let bare := path.toList.reverse.dropWhile (· = '/')
  if bare.isEmpty && path ≠ "" then throw .busy
  match bare.takeWhile (· ≠ '/') with
  | ['.'] => let _ ← t.open? dir path; throw .invalid
  | ['.', '.'] => let _ ← t.open? dir path; throw .notEmpty
  | _ => pure ()
  match ← t.find false dir (String.ofList bare.reverse) with
  | ⟨loc, some .directory⟩ => if t.isEmptyBelow loc then .ok (t.prune loc) else .error .notEmpty
  | ⟨_, some _⟩ => .error .notDirectory
  | ⟨_, none⟩ => .error .noEntry

/-- The text of the regular file that a path leads to, by `open?`. -/
def read (t : FileTree) (dir : Location) (path : Octets) : Except Errno Octets := do
  match ← t.open? dir path with
  | (_, .file _ content) | (_, .report _ content) => .ok content
  | (_, .device _) => .ok ""
  | (_, .directory) => .error .isDirectory
  | _ => .error .permission

/-- An entry of a collection of files, at a path below some directory, as `put` makes it. -/
inductive Entry where
  | directory (path : Octets)
  | file (path : Octets) (mode : Nat) (content : Octets)
  | link (path target : Octets)
  | pipe (path : Octets) (mode : Nat)
  deriving DecidableEq, Repr

/-- The path of an `Entry`. -/
def Entry.path : Entry → Octets
  | .directory p | .file p _ _ | .link p _ | .pipe p _ => p

/-- Make an `Entry` whose directory is there. -/
def put (t : FileTree) (dir : Location) : Entry → Except Errno FileTree
  | .directory p => t.makeDirectory dir p
  | .file p mode content => do (← t.write dir p content).chmod dir p mode
  | .link p target => t.place dir p (.link target)
  | .pipe p mode => t.place dir p (.pipe mode)

/-- Make an `Entry`, with the directories on the way to it, which stay even if the entry cannot be
    made. -/
def make (t : FileTree) (dir : Location) (e : Entry) : Except Errno Unit × FileTree :=
  let ready : Except Errno FileTree := match Path.parent? e.path with
    | none | some "" => .ok t
    | some above => t.makeDirectory dir above
  match ready with
  | .error err => (.error err, t)
  | .ok t =>
    match t.put dir e with
    | .ok t => (.ok (), t)
    | .error err => (.error err, t)

/-- Make entries in order with `make`, up to the first that cannot be made.  Those before it
    stay. -/
def makeAll (t : FileTree) (dir : Location) : List Entry → Except Errno Unit × FileTree
  | [] => (.ok (), t)
  | e :: es =>
    match t.make dir e with
    | (.ok (), t) => t.makeAll dir es
    | failed => failed

/-- The files that every machine has: the usual directories and links, its tools and the devices
    below `/dev`. -/
def standard : FileTree :=
  let directories : List Location :=
    ["boot", "dev", "etc", "home", "media", "mnt", "opt", "proc", "root", "run", "srv", "sys",
      "tmp", "usr", "var"].map ([·]) ++
    ["bin", "games", "include", "lib", "lib64", "libexec", "local", "sbin", "share", "src"].map
      ([·, "usr"]) ++
    ["bin", "etc", "games", "include", "lib", "sbin", "share", "src"].map ([·, "local", "usr"]) ++
    ["backups", "cache", "lib", "local", "log", "mail", "opt", "spool", "tmp"].map ([·, "var"]) ++
    [["lock", "run"], ["pts", "dev"], ["shm", "dev"]]
  let links : List (Location × Octets) :=
    [(["bin"], "usr/bin"), (["sbin"], "usr/sbin"), (["lib"], "usr/lib"),
      (["lib64"], "usr/lib64"), (["sh", "bin", "usr"], "dash"), (["run", "var"], "/run"),
      (["lock", "var"], "/run/lock"), (["man", "local", "usr"], "share/man"),
      (["fd", "dev"], "/proc/self/fd"),
      (["stdin", "dev"], "/proc/self/fd/0"), (["stdout", "dev"], "/proc/self/fd/1"),
      (["stderr", "dev"], "/proc/self/fd/2")]
  let devices : List (Octets × Device) :=
    [("null", .null), ("full", .full), ("zero", .zero), ("random", .random), ("urandom", .random),
      ("tty", .terminal)]
  let tools : List (Octets × Tool) :=
    [("dash", .sh), ("env", .env), ("mkdir", .mkdir), ("rmdir", .rmdir)]
  ⟨directories.map (·, .directory) ++ links.map (fun (loc, target) => (loc, .link target)) ++
    devices.map (fun (name, d) => ([name, "dev"], .device d)) ++
    tools.map fun (name, t) => ([name, "bin", "usr"], .tool t)⟩

end LineShell.FileTree
