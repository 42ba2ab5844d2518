import LineShell.Files.Edit
import LineShell.Process.Image
import LineShell.Process.Pipe
import LineShell.Process.Signal
import LineShell.Text.Numeral

/-! # What processes share

A `World` is what the processes on a machine share: the file tree, the open files, the pipes, what
processes know of one another, and the signals that are under way.  An open file is known by its
number and has a place, which moves when it is read or written; processes that share the open file
share the place.  Who reads a pipe has to wait as long as it is empty and somebody has it open to
write; what nobody can read is not written. -/

namespace LineShell

/-- The two streams of the first process, its `output` and its `errors`, on which all that is
    printed ends up. -/
inductive Outlet where
  | output
  | errors
  deriving DecidableEq, Repr

/-- What a `Handle` leads to. -/
inductive Channel where
  | outlet (o : Outlet)
  | file (loc : Location)
  | directory (loc : Location)
  | device (d : Device)
  /-- A pipe, by its number. -/
  | pipe (n : Nat)
  /-- What the machine has told of a process. -/
  | report (text : Octets)
  deriving DecidableEq, Repr

/-- An open file: its `channel`, and where in it the next octet stands. -/
structure Handle where
  channel : Channel
  readable : Bool := false
  writable : Bool := false
  /-- What is written goes to the end, wherever the place is. -/
  appends : Bool := false
  place : Nat := 0
  deriving DecidableEq, Repr

/-- What a file is opened for, as redirections ask for it. -/
inductive OpenMode where
  | read
  /-- To be written anew. -/
  | write
  /-- To be written, where nothing is yet. -/
  | create
  /-- To be written as it is, if it is there. -/
  | present
  /-- To be continued. -/
  | append
  /-- To be read and written over. -/
  | update
  deriving DecidableEq, Repr

/-- How a process ends: it is `exited` with a code, or `killed` by a signal. -/
inductive Ending where
  | exited (code : Nat)
  | killed (signal : Nat)
  deriving DecidableEq, Repr

/-- The open files of a process, by the numbers that it knows them by: each number stands for that
    of a `Handle`. -/
abbrev Descriptors := List (Nat × Nat)

namespace Descriptors

/-- The number of the `Handle` that a number of a process stands for. -/
def handle? (ds : Descriptors) (fd : Nat) : Option Nat := ds.lookup fd

/-- Close a number: it stands for no `Handle` any more. -/
def close (ds : Descriptors) (fd : Nat) : Descriptors := ds.filter (·.1 != fd)

/-- Let the number `fd` stand for an open file, in place of what it has stood for. -/
def assign (ds : Descriptors) (fd handle : Nat) : Descriptors := (fd, handle) :: close ds fd

end Descriptors

/-- A process, as far as others have to do with it. -/
structure Peer where
  parent : Nat
  /-- The program that it runs, the environment that this has been started with, and where the
      process stands. -/
  image : Option Image := none
  environment : List Octets := []
  directory : Location := []
  descriptors : Descriptors := []
  /-- Open files that it keeps on its own account, which a program that it runs does not get. -/
  kept : Descriptors := []
  /-- The scripts that it reads, which a process that begins as its likeness does not get either. -/
  scripts : Descriptors := []
  /-- It does not go on until it is told to. -/
  stopped : Bool := false
  /-- How it has ended, if its parent has not taken notice yet. -/
  ending : Option Ending := none

/-- What the processes on a machine share: the file tree `files`, pipes, open files and the
    processes themselves. -/
structure World where
  files : FileTree
  handles : Array Handle := #[]
  pipes : Array Pipe := #[]
  /-- The pipes that have a name in the file tree. -/
  named : List (Location × Nat) := []
  /-- What has been printed, in order. -/
  printed : Array (Outlet × Octets) := #[]
  /-- The processes by their numbers, latest first. -/
  peers : List (Nat × Peer) := []
  /-- The number of the next process. -/
  nextNumber : Nat := 4211
  /-- The signals that processes have been sent and have not noticed, latest first. -/
  signals : List (Nat × Nat) := []
  /-- How much has been done so far. -/
  clock : Nat := 0
  /-- When files have been changed last, apart from those that are as they were at first. -/
  changes : List (Location × Nat) := []

/-- Is a file made that is not there? It is not for `present`. -/
def OpenMode.makes : OpenMode → Bool
  | read | present => false
  | write | create | append | update => true

namespace World

/-- A world without anything, which stands for one that is still to come. -/
def void : World := { files := {} }

/-! ### Processes -/

/-- The process with a number, as a `Peer`. -/
def peer? (w : World) (number : Nat) : Option Peer := w.peers.lookup number

/-- Change what is known of a process, with `change`. -/
def update (w : World) (number : Nat) (change : Peer → Peer) : World :=
  { w with peers := w.peers.map fun (n, m) => (n, if n = number then change m else m) }

/-- The open files of a process, none if it is no `Peer`. -/
def descriptors (w : World) (number : Nat) : Descriptors :=
  ((w.peer? number).map (·.descriptors)).getD []

/-- Change the open files of a process, with `change`. -/
def withDescriptors (w : World) (number : Nat) (change : Descriptors → Descriptors) : World :=
  w.update number fun m => { m with descriptors := change m.descriptors }

/-- Let time go by on the `clock`. -/
def pass (w : World) (steps : Nat) : World := { w with clock := w.clock + steps }

/-- How much time goes by while a process begins, measured in rounds of a loop. -/
def beginning : Nat := 300

/-- The process `m` begins, and gets `nextNumber`. -/
def enlist (w : World) (m : Peer) : Nat × World :=
  (w.nextNumber, { w.pass beginning with
    nextNumber := w.nextNumber + 1, peers := (w.nextNumber, m) :: w.peers })

/-- How a process has ended, if it has and its parent has not taken notice yet. -/
def ending? (w : World) (number : Nat) : Option Ending := (w.peer? number).bind (·.ending)

/-- Notice is taken of the end of a process: it is no `Peer` any more. -/
def dismiss (w : World) (number : Nat) : World := { w with
  peers := w.peers.filter (·.1 != number), signals := w.signals.filter (·.1 != number) }

/-- The first process of all, which takes no notice of anything. -/
def origin : Nat := 1

/-- Is there a process with a number? -/
def isProcess (w : World) (number : Nat) : Bool :=
  number == origin || (w.peer? number).isSome

/-- Send a signal to a process; the signal `0` only asks whether there is one. -/
def send (w : World) (number signal : Nat) : Except Errno World :=
  match w.peer? number with
  | none => if w.isProcess number then .ok w else .error .noProcess
  | some m =>
    if signal = 0 || m.ending.isSome then .ok w
    else
      let w := if w.signals.contains (number, signal) then w
        else { w with signals := (number, signal) :: w.signals }
      if signal = Signal.stop then .ok (w.update number fun m => { m with stopped := true })
      else if signal ∈ [Signal.kill, Signal.resume] then
        .ok (w.update number fun m => { m with stopped := false })
      else .ok w

/-- Take the signals that a process has been sent, in order. -/
def receive (w : World) (number : Nat) : List Nat × World :=
  (((w.signals.filter (·.1 == number)).map (·.2)).reverse,
    { w with signals := w.signals.filter (·.1 != number) })

/-- The children of a process that have an `ending?`, the oldest first. -/
def endedChildren (w : World) (number : Nat) : List (Nat × Ending) :=
  w.peers.reverse.filterMap fun (n, m) =>
    if m.parent = number then m.ending.map (n, ·) else none

/-- A process has ended.  Its parent is told with `Signal.childEnded`; the process `origin` becomes
    the parent of the children that it leaves. -/
def finish (w : World) (number : Nat) (e : Ending) : World :=
  match w.peer? number with
  | none => w
  | some m =>
    let peers := (w.peers.filter fun (_, c) => c.parent != number || c.ending.isNone).map
      fun (n, c) => (n, if c.parent = number then { c with parent := origin } else c)
    let w := { w with peers }
    if (w.peer? m.parent).any (·.ending.isNone) then
      let w := w.update number fun m => { parent := m.parent, ending := some e }
      (w.send m.parent Signal.childEnded).toOption.getD w
    else w.dismiss number

/-! ### Open files -/

/-- Take an open file in, under the next number of a `Handle`. -/
def hold (w : World) (h : Handle) : Nat × World :=
  (w.handles.size, { w with handles := w.handles.push h })

/-- Make a pipe that holds `text`: the numbers of the `Handle`s of its two ends, the reading one
    first. -/
def makePipe (w : World) (text : Octets) : Nat × Nat × World :=
  let channel := Channel.pipe w.pipes.size
  let (source, w) := { w with pipes := w.pipes.push (.ofText text) }.hold
    { channel, readable := true }
  let (target, w) := w.hold { channel, writable := true }
  (source, target, w)

/-- The pipe with the number `k`. -/
def pipe (w : World) (k : Nat) : Pipe := w.pipes.getD k {}

/-- Put the pipe `k` into another state. -/
def setPipe (w : World) (k : Nat) (p : Pipe) : World :=
  { w with pipes := w.pipes.setIfInBounds k p }

/-- The pipe with a name in the file tree, which is made when it is first used. -/
def namedPipe (w : World) (loc : Location) : Nat × World :=
  match w.named.lookup loc with
  | some k => (k, w)
  | none =>
    (w.pipes.size, { w with pipes := w.pipes.push {}, named := (loc, w.pipes.size) :: w.named })

/-- Does some process have a `Handle` open that something holds of? -/
def isHeld (w : World) (holds : Handle → Bool) : Bool :=
  let isIt := fun (n : Nat) => (w.handles[n]?).any holds
  w.peers.any fun (_, m) =>
    m.descriptors.any (isIt ·.2) || m.kept.any (isIt ·.2) || m.scripts.any (isIt ·.2)

/-- Does some process have the pipe `k` open, for a use of it? -/
def isOpen (w : World) (k : Nat) (use : Handle → Bool) : Bool :=
  w.isHeld fun h => h.channel == .pipe k && use h

/-- May something still be printed? Some process has an `Outlet` open then. -/
def isHeard (w : World) : Bool :=
  w.isHeld fun h => match h.channel with
    | .outlet _ => true
    | _ => false

/-- Does some process have the file at `loc` open to write it? -/
def isWritten (w : World) (loc : Location) : Bool :=
  w.isHeld fun h => h.channel == .file loc && h.writable

/-- Open files for a process that reads a text on 0 and prints on an `Outlet` each on 1 and 2. -/
def withInput (w : World) (text : Octets) : Descriptors × World :=
  let (source, _, w) := w.makePipe text
  let (output, w) := w.hold { channel := .outlet .output, writable := true }
  let (errors, w) := w.hold { channel := .outlet .errors, writable := true }
  ([(0, source), (1, output), (2, errors)], w)

/-- What has been `printed` on an outlet. -/
def textOn (w : World) (o : Outlet) : Octets :=
  String.join ((w.printed.toList.filter (·.1 == o)).map (·.2))

/-- Open a pipe that has a name.  What it held is lost if nobody has it open. -/
def openPipe (w : World) (loc : Location) (h : Channel → Handle) : Nat × World :=
  let (k, w) := w.namedPipe loc
  let h := h (.pipe k)
  let p := w.pipe k
  let p := if w.isOpen k fun _ => true then p
    else { readers := p.readers, writers := p.writers }
  (w.setPipe k { p with
    readers := p.readers + h.readable.toNat, writers := p.writers + h.writable.toNat }).hold h

/-- How much is done before the clock of the files goes on, for `changed`. -/
def tick : Nat := 3000

/-- When a file has been changed last, by the clock of the files. -/
def changed (w : World) (loc : Location) : Nat := ((w.changes.lookup loc).getD 0) / tick

/-- What is at a location has been `changed` now. -/
def touch (w : World) (loc : Location) : World :=
  { w with changes := (loc, w.clock) :: w.changes.filter (·.1 != loc) }

/-- Put a file at a location, which has been `changed` now. -/
def putFile (w : World) (loc : Location) (n : Node) : World :=
  { w with files := w.files.insert loc n }.touch loc

/-- Open a file from a directory, for a process that sees the files in its own way, as a `View`.  A
    file that is made gets the permission bits `permissions`. -/
def openFile (w : World) (v : View) (dir : Location) (path : Octets) (mode : OpenMode)
    (permissions : Nat) : Except Errno (Nat × World) := do
  if mode.makes && path.toList.getLast? = some '/' then
    -- Only a directory can be called so; whether there is one is not looked up.
    let bare := path.toList.reverse.dropWhile (· = '/')
    let front := String.ofList (bare.dropWhile (· ≠ '/')).reverse
    if front ≠ "" then let _ ← v.open? dir front
    throw .isDirectory
  let ⟨loc, node⟩ ← v.find (mode ≠ .create) dir path
  if mode = .create && node.isSome then throw .exists_
  let handle := fun channel : Channel =>
    { channel, readable := mode == .read || mode == .update, writable := mode != .read,
      appends := mode == .append : Handle }
  match node with
  | none =>
    -- Nothing can be made among the reports of the system.
    if !mode.makes || loc.getLast? == some "proc" then throw .noEntry
    return ((w.putFile loc (.file permissions "")).touch loc.tail).hold (handle (.file loc))
  | some (.file bits _) =>
    let w := if mode = .write then w.putFile loc (.file bits "") else w
    return w.hold (handle (.file loc))
  | some .directory =>
    -- A directory can be opened for reading, but not read.
    if mode = .read then return w.hold (handle (.directory loc)) else throw .isDirectory
  | some (.pipe _) => return w.openPipe loc handle
  | some (.device .terminal) => throw .noDevice
  | some (.device d) => return w.hold (handle (.device d))
  | some (.tool _) => return w.hold (handle (.device .null))
  | some (.report _ text) =>
    return w.hold (handle (if mode = .read then .report text else .device .null))
  | some (.opened n) =>
    -- What is open is opened once more.
    match (w.handles[n]?).map (·.channel) with
    | some channel => return w.hold (handle channel)
    | none => throw .noEntry
  | some (.link _) => throw .linkLoop

/-- Has the pipe a name in the file tree, as a `namedPipe` has? -/
def isNamed (w : World) (k : Nat) : Bool := w.named.any (·.2 == k)

/-- When the opening of a file is complete that has just been opened: a pipe that has a name has to
    be open, or to have been opened in the meantime, at its other end too. -/
def meeting (w : World) (n : Nat) : World → Bool :=
  match w.handles[n]? with
  | some { channel := .pipe k, readable := true, writable := false, .. } =>
    let seen := (w.pipe k).writers
    fun later => !w.isNamed k || later.isOpen k (·.writable) || seen < (later.pipe k).writers
  | some { channel := .pipe k, readable := false, writable := true, .. } =>
    let seen := (w.pipe k).readers
    fun later => !w.isNamed k || later.isOpen k (·.readable) || seen < (later.pipe k).readers
  | _ => fun _ => true

/-! ### Writing -/

/-- The text `content` with `text` in the place of a part of it; what lies between its end and that
    place is filled with zeros. -/
def overlay (content : Octets) (place : Nat) (text : Octets) : Octets :=
  let cs := content.toList
  let front := cs.take place ++ List.replicate (place - cs.length) '\x00'
  String.ofList (front ++ text.toList ++ cs.drop (place + text.length))

/-- How many octets a pipe has `room` for. -/
def pipeCapacity : Nat := 65536

/-- How many octets at most are written to a pipe together or not at all, as `PIPE_BUF` says. -/
def pipeUnit : Nat := 4096

/-- How many of `count` octets can be written to the open file `n` without waiting. -/
def room (w : World) (n count : Nat) : Nat :=
  match w.handles[n]? with
  | some { channel := .pipe k, .. } =>
    let free := pipeCapacity - (w.pipe k).size
    if count ≤ free || !w.isOpen k (·.readable) then count
    else if count ≤ pipeUnit then 0
    else free
  | _ => count

/-- How many of `count` octets a `limit` on the size of files lets through to the open file `n`. -/
def allowance (w : World) (n count : Nat) (limit : Option Nat) : Nat :=
  match limit, w.handles[n]? with
  | some most, some { channel := .file loc, appends, place, .. } =>
    let size := match w.files.node? loc with
      | some (.file _ content) => content.length
      | _ => 0
    min count (most - if appends then size else place)
  | _, _ => count

/-- Write to the open file `n`; a pipe that nobody reads is `Errno.brokenPipe`. -/
def write (w : World) (n : Nat) (text : Octets) : Except Errno World := do
  let some h := w.handles[n]? | throw .badDescriptor
  if !h.writable then throw .badDescriptor
  if text = "" then return w
  match h.channel with
  | .outlet o => return { w with printed := w.printed.push (o, text) }
  | .device .full => throw .noSpace
  | .device _ => return w
  | .directory _ | .report _ => throw .badDescriptor
  | .pipe k =>
    if !w.isOpen k (·.readable) then throw .brokenPipe
    return w.setPipe k ((w.pipe k).write text)
  | .file loc =>
    -- A file that has been removed leaves no trace.
    let some (.file bits content) := w.files.node? loc | return w
    let size := content.length
    let place := if h.appends then size else h.place
    let content := if place = size then content ++ text else overlay content place text
    let w := w.putFile loc (.file bits content)
    return { w with handles := w.handles.setIfInBounds n { h with place := place + text.length } }

/-! ### Reading -/

/-- Does somebody have to write before there is anything to read from the open file `n`? -/
def isDry (w : World) (n : Nat) : Bool :=
  match w.handles[n]? with
  | some { channel := .pipe k, readable := true, .. } =>
    (w.pipe k).size == 0 && w.isOpen k (·.writable)
  | _ => false

/-- At most `count` octets that come next in the open file `n`. -/
def peek (w : World) (n count : Nat) : Except Errno (List Char) := do
  let some h := w.handles[n]? | throw .badDescriptor
  if !h.readable then throw .badDescriptor
  match h.channel with
  | .file loc =>
    let some (.file _ content) := w.files.node? loc | return []
    return Octets.part content h.place count
  | .pipe k => return (w.pipe k).content.take count
  | .report text => return Octets.part text h.place count
  | .directory _ => throw .isDirectory
  | .device .zero | .device .full => return List.replicate count '\x00'
  | .device _ | .outlet _ => return []

/-- Leave out the next `count` octets of the open file `n`. -/
def skip (w : World) (n count : Nat) : World :=
  match w.handles[n]? with
  | none => w
  | some h =>
    match h.channel with
    | .file _ | .report _ =>
      { w with handles := w.handles.setIfInBounds n { h with place := h.place + count } }
    | .pipe k => w.setPipe k ((w.pipe k).drop count)
    | _ => w

/-- Read at most `count` octets of an open file: `peek` at them and `skip` them. -/
def read (w : World) (n count : Nat) : Except Errno (Octets × World) := do
  let cs ← w.peek n count
  return (String.ofList cs, w.skip n cs.length)

end World

end LineShell
