import LineShell.Process.World

/-! # What a process sees of the files

Beside the file tree a process sees what the machine tells of the processes, below `/proc`: for each
a directory with its words, its environment, where it stands and what it has open, and a link to its
own directory. -/

namespace LineShell.World

/-- The process whose directory below `/proc` has a name. -/
def numbered? (w : World) (name : Octets) : Option Nat :=
  (Text.natural? name).filter fun n => toString n == name && w.isProcess n

/-- The first of the numbers that a process uses for what it keeps open on its own account. -/
def firstKept : Nat := 10

/-- The numbers that are in use in a process, with the open files that they stand for: its
    `descriptors`, what it has `kept` and its `scripts`. -/
def inUse (m : Peer) : Descriptors := m.descriptors ++ m.kept ++ m.scripts

/-- Which of the numbers from `low` on stand for something: one mark for each of as many numbers that
    one of them has to be free. -/
def taken (ds : Descriptors) (low : Nat) : Array Bool :=
  ds.foldl (fun marks (n, _) => if low ≤ n then marks.setIfInBounds (n - low) true else marks)
    (Array.replicate (ds.length + 1) false)

/-- The first number from `low` on that is not `inUse` in a process, if the `limit` on their number
    leaves one. -/
def vacant? (m : Peer) (low : Nat) (limit : Option Nat) : Option Nat :=
  let free := low + (taken (inUse m) low).idxOf false
  if limit.all (free < ·) then some free else none

/-- The path of an open file, if it has one: an `.outlet` and a `.report` have none. -/
def pathOf? (w : World) (h : Handle) : Option Octets :=
  match h.channel with
  | .file loc | .directory loc => some loc.path
  | .device d => (w.files.nodes.find? (·.2 == .device d)).map (·.1.path)
  | .pipe k => (w.named.find? (·.2 == k)).map (·.1.path)
  | .outlet _ | .report _ => none

/-- Texts that each have an end, a NUL, as in `/proc/self/environ`. -/
def ended (texts : List Octets) : Octets := String.join (texts.map (· ++ "\x00"))

/-- The entries of the directory of a process below `/proc`. -/
def told : List Octets := ["cmdline", "comm", "cwd", "environ", "exe", "fd", "root"]

/-- What the machine tells of a process under one of the names `told`. -/
def tell (w : World) (m : Peer) (name : Octets) : Option Node :=
  match name with
  | "cmdline" => some (.report 0o444 (ended (m.image.elim [] fun i => i.name :: i.arguments)))
  | "comm" => some (.report 0o644 (m.image.elim "" (·.title) ++ "\n"))
  | "environ" => some (.report 0o400 (ended m.environment))
  | "cwd" => some (.link m.directory.path)
  | "root" => some (.link "/")
  | "exe" =>
    let place? := m.image.bind fun i => w.files.nodes.find? (·.2 == .tool i.tool)
    place?.map fun e => .link e.1.path
  | "fd" => some .directory
  | _ => none

/-- What is seen at a location below `/proc` by the process `self`. -/
def processNode? (w : World) (self : Nat) : Location → Option Node
  | ["self", "proc"] => some (.link (toString self))
  | [name, "proc"] => (w.numbered? name).map fun _ => .directory
  | [name, number, "proc"] => do
    let n ← w.numbered? number
    w.tell ((w.peer? n).getD { parent := 0 }) name
  | [fd, "fd", number, "proc"] => do
    let m ← w.peer? (← w.numbered? number)
    let n ← (inUse m).lookup (← (Text.natural? fd).filter (toString · == fd))
    match w.pathOf? (← w.handles[n]?) with
    | some path => return .link path
    | none => return .opened n
  | _ => none

/-- The names that are seen in a directory below `/proc` by the process `self`. -/
def processNames (w : World) (self : Nat) : Location → List Octets
  | ["proc"] => "self" :: toString origin :: w.peers.map fun (n, _) => toString n
  | [number, "proc"] => if (w.numbered? number).isSome then told else []
  | ["fd", number, "proc"] =>
    match (w.numbered? number).bind fun n => (w.peer? n).map (n, ·) with
    | none => []
    | some (n, m) =>
      let fds := (inUse m).map (·.1)
      -- Who looks has the directory open.
      let fds := if n = self then fds ++
          ((List.range (fds.length + 1)).find? (!fds.contains ·)).toList
        else fds
      fds.map toString
  | _ => []

/-- The files as the process `self` sees them: the file tree, and what is told below `/proc`. -/
def view (w : World) (self : Nat) : View where
  node? loc := (w.files.node? loc).or (w.processNode? self loc)
  entries loc := w.files.entries loc ++ w.processNames self loc
  isWritten := w.isWritten

end LineShell.World
