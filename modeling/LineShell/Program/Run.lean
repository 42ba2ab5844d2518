import LineShell.Program.Input
import LineShell.Program.Options
import LineShell.Shell.Repl

/-! # The program

The shell as a program: it reads its command line, runs lines from its input, and ends with the
status that was asked for, of which the machine keeps the lowest eight bits.  What it cannot go on
from is reported on its errors. -/

namespace LineShell

/-- The code with which the program ends for a status: its remainder by 256. -/
def Status.code (status : Status) : Nat := (status.emod 256).toNat

namespace Program

/-- What stands for the time in the log: `[TIME ERROR …]`. -/
def clock : String := "TIME"

/-- The code with which the program ends if it cannot say what it has to, for `finish`. -/
def speechless : Nat := 101

/-- The name and the value of a variable that the program finds in its environment.  An equals sign
    at the very beginning belongs to the name, unlike in `splitVariable?`. -/
def variableOf? (text : Octets) : Option (String × String) :=
  match text.toList with
  | [] => none
  | c :: cs =>
    (splitVariable? (String.ofList cs)).map fun (name, value) =>
      (Octets.toText (String.singleton c ++ name), Octets.toText value)

/-- The value of the variable `name`.  Of several with a name the first one counts. -/
def value? (texts : List Octets) (name : Octets) : Option Octets :=
  (texts.filterMap splitVariable?).lookup name

/-- The environment of the program, by `variableOf?`.  Of several variables with a name the last one
    counts. -/
def environmentOf (texts : List Octets) : List (String × String) :=
  (texts.filterMap variableOf?).foldl (fun vars v => v :: vars.filter (·.1 != v.1)) []

/-- The process of the program at its beginning.  A standard stream that is not open leads nowhere,
    to `Device.null`. -/
def terminal (launch : Launch) (s : Start) (world : World) (setting : String) : Terminal :=
  let world := [0, 1, 2].foldl (fun (w : World) fd =>
    if ((w.descriptors s.number).handle? fd).isSome then w
    else
      let (h, w) := w.hold { channel := .device .null, readable := true, writable := true }
      w.withDescriptors s.number (·.assign fd h)) world
  { world, launch, clock, number := s.number, mask := s.mask, limits := s.limits
    deaf := Signal.brokenPipe :: s.deaf
    -- What tells of a fault in memory is taken for a mistake once.
    forgiven := [Signal.outOfMemory, Signal.badAddress].filter (!s.deaf.contains ·)
    level := Level.ofSetting? setting }

/-- End the program with `code`, after a last message that may not have been made. -/
def finish (code : Nat) : Except Fault Unit × Terminal → Task
  | (made, t) =>
    let t := t.flush.2
    match t.killed, made with
    | some n, _ => .ended (.killed n) t.world
    | none, .ok () => .ended (.exited code) t.world
    | none, .error _ => .ended (.exited speechless) t.world

/-- Report what the program cannot go on from, by `Fault.message`, and end it with the code 1. -/
def fail (f : Fault) (t : Terminal) : Task :=
  finish 1 ((t.log (.fatal f)).complain ("myshell: " ++ f.message ++ "\n"))

/-- Go through rounds of the loop, at most `n`: each is a `Shell.round`.  A round in which the shell
    has to wait is begun again as soon as the world is ready, with the worlds in which it has gone
    on so far. -/
def rounds (prompt : String) (sh : Shell Terminal) (source : Input) (returns : List World) :
    Nat → Task
  | 0 => .ended (.killed Signal.kill) sh.scene.stage.world
  | n + 1 =>
    let begun := sh.withStage { sh.scene.stage with returns }
    let (result, source', after) := Shell.round Table.standard prompt source begun
    let stage := after.scene.stage
    match stage.pause, result with
    | some pause, _ => pause.task fun w => rounds prompt sh source (returns ++ [w]) n
    | none, none => rounds prompt after source' [] n
    | none, some (.error f) => fail f stage
    | none, some (.ok status) => finish status.code (.ok (), stage)

/-- Run the program: read its words with `Options.read`, then go through `rounds`. -/
def start (launch : Launch) : Launch := fun s world =>
  let environment := environmentOf s.environment
  let t := terminal launch s world (Octets.toText ((value? s.environment "RUST_LOG").getD ""))
  match (s.image.name :: s.image.arguments).find? (!·.isText) with
  | some word => finish 1 (t.complain ("Invalid utf8: " ++ Octets.toText word ++ "\n"))
  | none =>
    match Options.read (s.image.arguments.map Octets.toText) with
    | .error .help => finish 0 (t.write (Options.usage ++ "\n"))
    | .error stop =>
      finish 1 (t.complain
        (stop.message Options.usage ++ "\nRun myshell --help for more information.\n"))
    | .ok options =>
      -- A variable that is no text is more than the program can bear.
      if s.environment.any fun v => (variableOf? v).isSome && !v.isText then
        .ended (.exited speechless) t.world
      -- A directory that has been removed has no path any more.
      else if !t.world.files.isDirectoryAt s.directory then
        fail (.nowhere (.system .noEntry)) t
      else
        let session : Session := { vars := environment, dir := s.directory.path }
        let sh := Shell.start Table.standard session t
        rounds options.prompt (sh.note (.started session.dir)) {} [] ({} : Input).limit

end Program

end LineShell
