import LineShell.Machine.Child

/-! # A machine in memory

A `Host` is a machine in a world of its own, whose children have nothing to read.  The shell's own
process stands in one of its directories; a path that is not absolute is tested from there, while a
child starts in the directory that it is given.  Processes that a child leaves behind go on when
the next child runs. -/

namespace LineShell

/-- A machine in memory: a `World`, and the process in it that is the shell. -/
structure Host where
  world : World
  /-- The shell's own process. -/
  number : Nat
  /-- How programs are run. -/
  launch : Launch
  /-- The processes that have been left behind. -/
  others : List Waiting := []

namespace Host

/-- A machine with some `files`, whose shell stands in `directory`. -/
def ofFiles (files : FileTree) (launch : Launch) (directory : Location := []) : Host :=
  let (number, world) := ({ files } : World).enlist { parent := World.origin, directory }
  { world, number, launch }

/-- The files of a machine. -/
def files (h : Host) : FileTree := h.world.files

/-- Put other files in the place of those of a machine. -/
def withFiles (h : Host) (files : FileTree) : Host := { h with world.files := files }

/-- The shell's own process: the `Peer` with its `number`. -/
def self (h : Host) : Peer := (h.world.peer? h.number).getD { parent := World.origin }

/-- What a path leads to, through links, as the shell's own process sees it. -/
def status? (h : Host) (path : Octets) : Option FileStatus :=
  (h.world.view h.number).status? h.self.directory path

/-- Start a child in the directory that it is given, and wait for its end, which is always told. -/
def spawn (r : Request) (h : Host) : Except Fault Outcome × Host :=
  let (descriptors, world) := h.world.withInput ""
  match r.begin_ world h.number { h.self with descriptors } with
  | .error e => (.ok (.error e), h)
  | .ok (start, world) =>
    let (world, others) := Waiting.run (fun w => (w.ending? start.number).isSome)
      Waiting.boundless world (h.others ++ [⟨start.number, fun _ => true, h.launch start⟩])
    let ending := (world.ending? start.number).getD (.killed Signal.kill)
    let (world, others) := Waiting.linger (world.dismiss start.number) others
    (.ok (.ok ending), { h with world, others })

instance : Machine Host := ⟨status?, spawn⟩

end Host

end LineShell
