import LineShell.Console.Basic
import LineShell.Machine.Child

/-! # Terminals

A terminal is the stage of a shell that runs as a program: the process of the shell, in the world
that it shares with its children.  What it writes is held back until a line is complete, a flush is
asked for or there is no room; the log and the output of children go straight through.

Where the shell has to wait, for a line or for a child, the terminal takes down what for, and what
the shell does after that is void.  Once the world is ready the shell goes through the same round
again, and finds the world there in which it goes on. -/

namespace LineShell

/-- What a shell waits for: a world that is `ready`. -/
structure Pause where
  world : World
  /-- A child that begins, with its number. -/
  child : Option (Nat × (World → Task))
  ready : World → Bool

/-- What a process does that waits and then goes on with `go`. -/
def Pause.task (p : Pause) (go : World → Task) : Task :=
  match p.child with
  | none => .waits p.world p.ready go
  | some (number, begin_) => .starts p.world number begin_ fun w => .waits w p.ready go

/-- The process of a shell, and the world in which it goes on. -/
structure Terminal where
  world : World
  /-- The worlds in which the shell has gone on where it had to wait in this round, in order. -/
  returns : List World := []
  /-- What it waits for. -/
  pause : Option Pause := none
  number : Nat
  /-- The signals that the process does not hear. -/
  deaf : List Nat := []
  /-- The signals that do not end it when they come for the first time. -/
  forgiven : List Nat := []
  /-- What its children take over from it. -/
  mask : Nat := 0o022
  limits : Limits := .standard
  /-- The signal that has ended it; nothing comes of what it does after that. -/
  killed : Option Nat := none
  /-- How its children are run. -/
  launch : Launch
  /-- Written, but not yet passed on. -/
  pending : String := ""
  /-- The least important level that is logged, if any is. -/
  level : Option Level := some .error
  /-- What the log writes for the time. -/
  clock : String := ""

namespace Terminal

/-- The most bytes that are held back in `pending`. -/
def capacity : Nat := 1024

/-- The process, as others see it: the `Peer` with its `number`. -/
def self (t : Terminal) : Peer := (t.world.peer? t.number).getD { parent := World.origin }

/-- The open files of the process. -/
def descriptors (t : Terminal) : Descriptors := t.world.descriptors t.number

/-! ### Signals -/

/-- Does the process not mind a signal? -/
def isDeafTo (t : Terminal) (signal : Nat) : Bool :=
  t.deaf.contains signal && Signal.isCatchable signal

/-- Does a signal bear on the process? -/
def minds (t : Terminal) (signal : Nat) : Bool := Signal.isDeadly signal && !t.isDeafTo signal

/-- Notice a signal, which ends the process unless it is `forgiven`. -/
def hear (t : Terminal) (signal : Nat) : Terminal :=
  if !t.minds signal then t
  else if t.forgiven.contains signal then { t with forgiven := t.forgiven.erase signal }
  else { t with killed := t.killed.or (some signal) }

/-- Notice the signals that the process has been sent, with `hear`. -/
def notice (t : Terminal) : Terminal :=
  let (signals, world) := t.world.receive t.number
  signals.foldl hear { t with world }

/-! ### Writing -/

/-- Write to the open file `fd`, as far as the limit on files lets through.  Nothing is amiss if the
    file is not open for it. -/
def writeTo (t : Terminal) (fd : Nat) (text : String) : Except Fault Unit × Terminal :=
  match t.descriptors.handle? fd with
  | none => (.ok (), t)
  | some h =>
    let text := Octets.ofText text
    let now := t.world.allowance h text.length (t.limits.soft .fileSize)
    match t.world.write h (String.ofList (text.toList.take now)) with
    | .ok world =>
      let t := { t with world }
      if now = text.length then (.ok (), t)
      else (.error (.system .fileTooLarge), t.hear Signal.fileTooLarge)
    | .error .badDescriptor => (.ok (), t)
    | .error e => (.error (.system e), t)

/-- Pass a text on to the output, which is the descriptor `1`. -/
def deliver (t : Terminal) (text : String) : Except Fault Unit × Terminal :=
  if text = "" || t.killed.isSome then (.ok (), t) else t.writeTo 1 text

/-- Pass on what is `pending`; if that fails it is still held back. -/
def flush (t : Terminal) : Except Fault Unit × Terminal :=
  match t.deliver t.pending with
  | (.ok (), t) => (.ok (), { t with pending := "" })
  | (.error f, t) => (.error f, t)

/-- Hold a text back as `pending`; if there is no room, what was held back before is passed on
    first. -/
def hold (t : Terminal) (text : String) : Except Fault Unit × Terminal :=
  let size := text.utf8ByteSize
  let total := t.pending.utf8ByteSize + size
  -- Text that fits nowhere is passed on at once.
  let (made, t) := if total > capacity then t.flush else (.ok (), t)
  match made with
  | .error f => (.error f, t)
  | .ok () =>
    if size ≥ capacity then t.deliver text else (.ok (), { t with pending := t.pending ++ text })

/-- The text up to its last line end, and the rest. -/
def splitLines (text : String) : String × String :=
  let back := text.toList.reverse
  let tail := back.takeWhile (· ≠ '\n')
  (String.ofList (back.drop tail.length).reverse, String.ofList tail.reverse)

/-- Write a text: complete lines are passed on with `deliver`. -/
def write (text : String) (t : Terminal) : Except Fault Unit × Terminal :=
  let (lines, tail) := splitLines text
  let (made, t) :=
    if lines = "" then
      -- A line end is held back only after a failure: then it has to go first.
      if t.pending.toList.getLast? = some '\n' then t.flush else (.ok (), t)
    else if t.pending = "" then t.deliver lines
    else match t.hold lines with
      | (.ok (), t) => t.flush
      | failed => failed
  match made with
  | .error f => (.error f, t)
  | .ok () => if tail = "" then (.ok (), t) else t.hold tail

/-- Write straight to the errors, which are the descriptor `2`. -/
def complain (text : String) (t : Terminal) : Except Fault Unit × Terminal :=
  if t.killed.isSome then (.ok (), t) else t.writeTo 2 text

/-- Write a record to the log if it is important enough for `level`.  The log does not mind if that
    fails. -/
def log (r : Record) (t : Terminal) : Terminal :=
  if t.level.any (r.level.rank ≤ ·.rank) then (t.complain (r.render t.clock)).2 else t

instance : Console Terminal := ⟨write, flush, log⟩

/-! ### Waiting -/

/-- Wait until the world is `ready`, after a child has begun if there is one.  A signal that the
    process survives is noticed meanwhile. -/
def waitFor (child : Option (Nat × (World → Task))) (ready : World → Bool) (t : Terminal) :
    Terminal :=
  if t.pause.isSome then t else go t child t.returns
where
  go (t : Terminal) (child : Option (Nat × (World → Task))) : List World → Terminal
    | world :: returns =>
      let t := notice { t with world, returns }
      if t.killed.isSome || ready t.world then t else go t none returns
    | [] =>
      let number := t.number
      let signals := (List.range (Signal.highest + 1)).filter t.minds
      let ready := fun w : World =>
        ready w || w.signals.any fun (n, s) => n == number && signals.contains s
      { t with pause := some { world := t.world, child, ready } }

/-- Run a child, which has the same open files.  A process that is deaf to the ends of its children
    does not get to know how they ended: the fault is `Errno.noChild`. -/
def spawn (r : Request) (t : Terminal) : Except Fault Outcome × Terminal :=
  if let some n := t.killed then (.ok (.ok (.killed n)), t)
  else match r.begin_ t.world t.number t.self with
    | .error e => (.ok (.error e), t)
    | .ok (start, world) =>
      let number := start.number
      let start := { start with
        deaf := t.deaf.filter (· ≠ Signal.brokenPipe), mask := t.mask, limits := t.limits }
      let t := waitFor (some (number, t.launch start)) (fun w => (w.ending? number).isSome)
        { t with world }
      let ending := (t.world.ending? number).getD (.killed Signal.kill)
      let outcome := if t.isDeafTo Signal.childEnded then .error (.system .noChild)
        else .ok (.ok ending)
      (outcome, { t with world := t.world.dismiss number })

/-- What a path leads to, through links, as the process sees it. -/
def status? (t : Terminal) (path : Octets) : Option FileStatus :=
  (t.world.view t.number).status? t.self.directory path

instance : Machine Terminal := ⟨status?, spawn⟩

end Terminal

end LineShell
