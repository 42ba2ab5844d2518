import LineShell.Sh.Fields
import LineShell.Sh.Parse
import LineShell.Path.Resolve
import LineShell.Process.Launch
import LineShell.Process.Signal
import LineShell.Text.Numeral

/-! # A process of the standard shell

The state of a process that runs a script: its parameters and functions, its directory, its
arrangements for signals, and the world that it shares with other processes. -/

namespace LineShell.Sh

/-- A variable.  Without a value it is unset, but may have been marked, by `export` or
    `readonly`. -/
structure Variable where
  value : Option Octets := none
  exported : Bool := false
  readOnly : Bool := false

/-- What a call hides until it comes back, by `local`. -/
structure Scope where
  /-- The variables as they were. -/
  bindings : List (Octets × Option Variable) := []
  /-- The options as they were, if they come back too. -/
  options : Option (List Octets) := none

/-- A process in the background, with those that are in front of it in a pipeline.  How they have
    ended is known as far as their parent has taken notice. -/
structure Job where
  number : Nat
  /-- Its place among the processes in the background. -/
  place : Nat
  ending : Option Ending := none
  front : List (Nat × Option Ending) := []
  /-- Its end has been waited for. -/
  waited : Bool := false

/-- Have all processes of a `Job` ended? -/
def Job.isOver (j : Job) : Bool := j.ending.isSome && j.front.all (·.2.isSome)

/-- A program that has been found by its name, as `hash` shows it. -/
structure Tracked where
  name : Octets
  /-- Which of the directories of the search path it has been found in. -/
  place : Nat
  /-- The process has gone elsewhere since. -/
  stale : Bool := false

/-- The same once the process has gone elsewhere: it is `stale`. -/
def Tracked.aged (t : Tracked) : Tracked := { t with stale := true }

/-- The state of a process that runs a script. -/
structure Process where
  number : Nat
  /-- The number that the parameter `$` has; a subshell keeps it. -/
  shown : Nat
  parent : Nat
  /-- The script's name, the parameter `0`. -/
  name : Octets
  arguments : List Octets := []
  bindings : List (Octets × Variable) := []
  functions : List (Octets × Command) := []
  /-- The new names of commands, in the order in which they have been given. -/
  aliases : List (Octets × Octets) := []
  /-- What the calls hide that have not come back, the inner ones first. -/
  hidden : List Scope := []
  /-- The names of the options that are set. -/
  options : List Octets := []
  directory : Location
  /-- The path that the directory is known by. -/
  path : Octets := "/"
  /-- The permission bits that new files do not get. -/
  mask : Nat := 0o022
  limits : Limits := .standard
  world : World
  status : Nat := 0
  /-- The status of the last command that was run for what it prints. -/
  answered : Option Nat := none
  /-- The line of the current command. -/
  line : Nat := 1
  /-- The line up to which the script has been read, or a text that is carried out. -/
  lastLine : Nat := 1
  /-- The line up to which the script itself has been read. -/
  scriptLine : Nat := 1
  /-- The command of the shell itself that is being carried out. -/
  command : Option Octets := none
  /-- What it prints, until it is done. -/
  held : Octets := ""
  /-- How many loops surround the current command. -/
  loops : Nat := 0
  /-- How many functions do, and scripts that are read in place. -/
  calls : Nat := 0
  /-- What is done about signals; the number 0 stands for the end of the process. -/
  traps : List (Nat × Octets) := []
  /-- The signals that it was started not to hear. -/
  deaf : List Nat := []
  /-- The processes in the background, latest first. -/
  jobs : List Job := []
  /-- The number of the last process that was started in the background. -/
  lastJob : Option Nat := none
  /-- The texts that follow in the script, by their numbers. -/
  documents : Array (List Part) := #[]
  /-- The word that `getopts` has come to. -/
  optionIndex : Nat := 1
  /-- How far it has come in the word before. -/
  optionPlace : Option Nat := none
  /-- The status before what is being done about a signal, or about the end of the process. -/
  statusBefore : Option Nat := none
  /-- The programs that have been found before, in order. -/
  tracked : List Tracked := []
  /-- How many rounds of loops it has gone through since it last waited. -/
  rounds : Nat := 0
  /-- How often it has waited after that many rounds. -/
  spells : Nat := 0
  /-- The numbers that redirections have been about so far, each with the number under which is kept
      what it stood for before. -/
  former : List (Nat × Option Nat) := []
  /-- The numbers that redirections have left without a file. -/
  shut : List Nat := []

/-! ### Parameters -/

namespace Process

/-- The options by their names, with the letters that most of them have too: `errexit` has `e`. -/
def optionNames : List (Octets × Option Char) :=
  [("errexit", some 'e'), ("noglob", some 'f'), ("ignoreeof", some 'I'), ("interactive", some 'i'),
    ("monitor", some 'm'), ("noexec", some 'n'), ("stdin", some 's'), ("xtrace", some 'x'),
    ("verbose", some 'v'), ("vi", some 'V'), ("emacs", some 'E'), ("noclobber", some 'C'),
    ("allexport", some 'a'), ("notify", some 'b'), ("nounset", some 'u'), ("privileged", some 'p'),
    ("nolog", none), ("debug", none)]

/-- The name of the option with a letter. -/
def optionName? (letter : Char) : Option Octets :=
  (optionNames.find? (·.2 == some letter)).map (·.1)

/-- Is the option with a name set? -/
def has (p : Process) (name : Octets) : Bool := p.options.contains name

/-- The variable with a name. -/
def binding (p : Process) (name : Octets) : Variable := (p.bindings.lookup name).getD {}

/-- The value of a variable, if it is set: that of its `binding`. -/
def value? (p : Process) (name : Octets) : Option Octets :=
  (p.bindings.lookup name).bind (·.value)

/-- The separators of fields: the value of `IFS`. -/
def separators (p : Process) : Octets := (p.value? "IFS").getD " \t\n"

/-- Put a variable in place of the one with its name. -/
def setVariable (p : Process) (name : Octets) (v : Variable) : Process :=
  { p with bindings := (name, v) :: p.bindings.filter (·.1 != name) }

/-- The letters of the options that are set, those of the last options first: the parameter `-`. -/
def letters (p : Process) : Octets :=
  String.ofList (optionNames.reverse.filterMap fun (name, letter) =>
    if p.has name then letter else none)

/-- The value of a parameter that stands for one text: a variable, an argument or one such as
    `?`. -/
def parameter? (p : Process) (name : Octets) : Option Octets :=
  match name with
  | "#" => some (toString p.arguments.length)
  | "?" => some (toString p.status)
  | "$" => some (toString p.shown)
  | "!" => p.lastJob.map toString
  | "-" => some p.letters
  | "0" => some p.name
  | _ =>
    match Text.natural? name with
    | some n => if n = 0 then some p.name else p.arguments[n - 1]?
    | none => p.value? name

/-- The variables that children get, each as a `variableText`. -/
def environment (p : Process) : List Octets :=
  p.bindings.reverse.filterMap fun (name, v) =>
    if v.exported then v.value.map (variableText name) else none

/-- The open files of the process. -/
def descriptors (p : Process) : Descriptors := p.world.descriptors p.number

/-- What the process does of its own about the signal, if `trap` has told it. -/
def trap? (p : Process) (signal : Nat) : Option Octets := p.traps.lookup signal

/-- Does a signal reach the process? One to which it is `deaf` does not. -/
def hears (p : Process) (signal : Nat) : Bool :=
  !(p.deaf.contains signal && Signal.isCatchable signal)

/-- What is to be done about a signal that the process `hears`. -/
def action? (p : Process) (signal : Nat) : Option Octets :=
  if Signal.isCatchable signal then p.trap? signal else none

/-- Does a signal end the process? It `hears` it, and makes no arrangements. -/
def isFatal (p : Process) (signal : Nat) : Bool :=
  p.hears signal && (p.action? signal).isNone && Signal.isDeadly signal

/-- Has the process made arrangements for a signal? It has an `action?` then that is not empty. -/
def isTrapped (p : Process) (signal : Nat) : Bool :=
  p.hears signal && (p.action? signal).any (· != "")

/-- The signals that the process, and what it starts, does not hear. -/
def unheard (p : Process) : List Nat :=
  p.deaf ++ (p.traps.filter fun t => t.1 != 0 && t.2 == "").map (·.1)

/-- What is left of a script, for a process that goes on to read it: its `documents` and `aliases`
    are the process's. -/
def update (p : Process) (u : Unread) : Unread :=
  { u with documents := p.documents, aliases := p.aliases }

/-- The process as it begins in the background: it does not notice what comes from the keys of a
    terminal, `SIGINT` and `SIGQUIT`. -/
def deafen (p : Process) : Process := { p with deaf := [2, 3] ++ p.deaf }

end Process

/-! ### Programs -/

namespace Process

/-- The process, as others see it: a `Peer`. -/
def self (p : Process) : Peer := (p.world.peer? p.number).getD { parent := p.parent }

/-- The first number from `low` on that is free for an open file. -/
def vacant? (p : Process) (low : Nat) : Option Nat :=
  World.vacant? p.self low (p.limits.soft .openFiles)

/-- Are so many numbers free, from `low` on? -/
def hasVacant (p : Process) : Nat → Nat → Bool
  | 0, _ => true
  | count + 1, low => (p.vacant? low).any fun n => p.hasVacant count (n + 1)

/-- Why a number could not be given to an open file from which one is to be found. -/
def refusal (p : Process) : Errno :=
  if (p.limits.soft .openFiles).any (· ≤ World.firstKept) then .invalid else .tooManyFiles

/-- The files as the process sees them. -/
def view (p : Process) : View := p.world.view p.number

/-- The location and the node that a path leads to, through every link. -/
def open? (p : Process) (path : Octets) : Except Errno (Location × Node) :=
  p.view.open? p.directory path

/-- The file at a path, if it is neither missing nor a directory. -/
def fileAt? (p : Process) (path : Octets) : Option Node :=
  match p.open? path with
  | .ok (_, .directory) | .error _ => none
  | .ok (_, n) => some n

/-- Name a command anew, by an alias. -/
def nameAnew (p : Process) (name value : Octets) : Process :=
  let isKnown := (p.aliases.lookup name).isSome
  { p with aliases := if isKnown then
      p.aliases.map fun a => (a.1, if a.1 = name then value else a.2)
    else p.aliases ++ [(name, value)] }

end Process

end LineShell.Sh
