import LineShell.Program.Handover
import LineShell.Program.Making
import LineShell.Program.Removal
import LineShell.Program.Run
import LineShell.Sh.Start

/-! # The programs of the machine

The programs that can be run without reading their files: the line shell, the standard shell, and
the programs that hand over to another one and that make and remove directories. -/

namespace LineShell.Program

/-- The library that a program opens first when it begins, as `withoutLibrary` names it. -/
def firstLibrary : Tool → Octets
  | .sh | .env | .rmdir => "libc.so.6"
  | .mkdir => "libselinux.so.1"
  | .lineShell => "libgcc_s.so.1"

/-- What a program says if it cannot begin for want of a library. -/
def withoutLibrary (t : Tool) (reason : Octets) : Octets :=
  "error while loading shared libraries: " ++ firstLibrary t ++ ": " ++ reason

/-- Is there a number free, by `World.vacant?`, under which a program can open what it needs? -/
def canOpen (s : Start) (w : World) : Bool :=
  (w.peer? s.number).all fun m => (World.vacant? m 0 (s.limits.soft .openFiles)).isSome

/-- How many kilobytes of something a program needs to get so far when it begins, and what it says
    if it gets no further; some say nothing, and are ended by a fault in memory. -/
def needs (t : Tool) : List (Resource × Nat × Option Octets) :=
  [(.stack, 16, none), (.space, 544, none),
    (.space, 2676, withoutLibrary t "failed to map segment from shared object"),
    (.space, 2808, none), (.data, 44, none),
    (.data, 68, withoutLibrary t "cannot map zero-fill pages"), (.data, 232, none)]

/-- How a program ends that has not got what it `needs` to begin. -/
def failure? (s : Start) (w : World) : Option Task :=
  let need? := (needs s.image.tool).find? fun (r, least, _) => (s.limits.soft r).any (· < least * 1024)
  match need? with
  | some (_, _, none) => some (.ended (.killed Signal.outOfMemory) w)
  | some (_, _, some text) => some (.ended (.exited 127) (tell s text w))
  | none =>
    if canOpen s w then none
    else some (.ended (.exited 127) (tell s
      (withoutLibrary s.image.tool "cannot open shared object file: Error 24") w))

/-- How much time goes by while a program is loaded, measured in rounds of a loop. -/
def loading : Nat := 700

/-- Run a program, which may start others to a depth of `depth`: the `Launch` that they are given is
    one less deep. -/
def launchWithin : Nat → Launch
  | 0 => fun _ w => .ended (.killed Signal.kill) w
  | depth + 1 => fun s w =>
    let w := (w.pass loading).update s.number fun m => { m with
      image := some s.image, environment := s.environment, directory := s.directory
      kept := [], scripts := [] }
    match failure? s w, s.image.tool with
    | some ending, _ => ending
    | none, .sh => Sh.start (launchWithin depth) s w
    | none, .env => Handover.run (launchWithin depth) s w
    | none, .mkdir => Making.run s w
    | none, .rmdir => Removal.run s w
    | none, .lineShell => start (launchWithin depth) s w

/-- Run a program, which may start others, more deeply than there is room for: `launchWithin` a
    depth that is never reached. -/
def launch : Launch := launchWithin 0x100000000

/-- Run a program as the first process of a machine, with the text `input`: how it ends, and the
    world once nobody else prints anything, which is when `Waiting.drain` is done. -/
def runFirst (image : Image) (environment : List Octets) (directory : Location)
    (files : FileTree) (input : Octets) : Ending × World :=
  let (descriptors, world) := World.withInput { files } input
  let (parent, world) := world.enlist { parent := World.origin, directory }
  let (number, world) := world.enlist { parent, directory, descriptors }
  let begin_ := launch { image, environment, directory, number, parent }
  let (world, others) := Waiting.run (fun w => (w.ending? number).isSome) Waiting.boundless world
    [⟨number, fun _ => true, begin_⟩]
  let ending := (world.ending? number).getD (.killed Signal.kill)
  (ending, (Waiting.drain world others).1)

end LineShell.Program
