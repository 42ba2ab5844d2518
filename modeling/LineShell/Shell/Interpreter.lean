import LineShell.Command.Builtin
import LineShell.Command.External
import LineShell.Words.Scan

/-! # The interpreter

The interpreter turns a line into a turn: it cuts the line into words, asks its table for the
command that the first word names, and executes it.  A line without words keeps the status of the
turn before; a line that cannot be cut is reported. -/

namespace LineShell

/-- The status `2` of a turn whose line cannot be cut into words. -/
def Status.badLine : Status := 2

/-- A shell between turns, whose stage has type `σ`. -/
structure Shell (σ : Type) where
  scene : Scene σ
  /-- The status of the last turn that had one. -/
  lastStatus : Status := 0

namespace Table

variable {σ : Type} [Console σ]

/-- Run the command that a name means in a table. -/
def run (table : Table σ) (name : String) (words : List String) : Act σ Status := do
  let scene ← get
  match table.create? scene.session scene.stage name words with
  | some command =>
    Act.noteAll command.findings
    Act.note (.dispatch name words)
    command.execute
  | none =>
    Act.say [name, ": not found\n"]
    return Status.notFound

/-- One turn after a turn with the status `last`, up to the flush that ends it. -/
def turn (table : Table σ) (last : Status) (line : String) : Act σ Status := do
  let status ← match Words.words? line with
    | .error e => do
      Act.say [e.message, "\n"]
      pure Status.badLine
    | .ok words => do
      Act.note (.words line words)
      match words with
      | [] => pure last
      | name :: rest => table.run name rest
  Act.flush
  return status

/-- The table of the shell: the factories of `Builtin.all`, then `External.factory`. -/
def standard [Machine σ] [Arguments.Reader] : Table σ :=
  Builtin.all.map Builtin.factory ++ [External.factory]

end Table

namespace Shell

variable {σ : Type}

/-- A shell with a table, whose `builtinNames` the session learns. -/
def start (table : Table σ) (session : Session) (stage : σ) : Shell σ where
  scene := { session := { session with builtins := table.builtinNames }, stage }

variable [Console σ]

/-- Run a command by name with `Table.run`.  `lastStatus` stays. -/
def run (table : Table σ) (name : String) (words : List String) (sh : Shell σ) :
    Except Fault Status × Shell σ :=
  let (result, scene) := Act.run (table.run name words) sh.scene
  (result, { sh with scene })

/-- Execute a line with `Table.turn`.  The status becomes `lastStatus` unless a fault ends the
    turn. -/
def execute (table : Table σ) (line : String) (sh : Shell σ) :
    Except Fault Status × Shell σ :=
  match Act.run (table.turn sh.lastStatus line) sh.scene with
  | (.ok status, scene) => (.ok status, { scene, lastStatus := status })
  | (.error f, scene) => (.error f, { sh with scene })

/-- Note a log record. -/
def note (sh : Shell σ) (r : Record) : Shell σ :=
  { sh with scene.stage := Console.log r sh.scene.stage }

end Shell

end LineShell
