import LineShell.Fault
import LineShell.Machine.Basic
import LineShell.Process.Signal
import LineShell.Session
import LineShell.Text.Quoted

/-! # Log records

What the shell notes about its own doings.  A `Record` says what happened; its level, its topic and
its wording are read off it, and `Record.render` writes the line of the log. -/

namespace LineShell

/-- How important a record is, from the most important on. -/
inductive Level where
  | error
  | warn
  | info
  | debug
  | trace
  deriving DecidableEq, Repr

namespace Level

/-- The rank of a `Level`; lower ranks are more important. -/
def rank : Level → Nat
  | error => 1
  | warn => 2
  | info => 3
  | debug => 4
  | trace => 5

/-- The name of a `Level`, filled up to five characters. -/
def label : Level → String
  | error => "ERROR"
  | warn => "WARN "
  | info => "INFO "
  | debug => "DEBUG"
  | trace => "TRACE"

end Level

/-- Something that the shell notes. -/
inductive Record where
  /-- A line was cut into words. -/
  | words (line : String) (words : List String)
  /-- A command was found for a name. -/
  | dispatch (name : String) (arguments : List String)
  /-- A name was found to mean a file. -/
  | resolved (name : String) (path : Octets)
  /-- A child could not be started. -/
  | spawnFailed (path : Octets) (e : SpawnError)
  /-- A child ended. -/
  | ended (path : Octets) (e : Ending)
  /-- The current directory changed. -/
  | moved (target : String) (dir : Octets)
  /-- The shell began to read lines. -/
  | started (dir : Octets)
  /-- There are no more lines. -/
  | endOfInput
  /-- A turn asked for the exit. -/
  | exiting (status : Status)
  /-- The shell gave up. -/
  | fatal (f : Fault)
  deriving DecidableEq, Repr

namespace Record

/-- How important the record is, as a `Level`. -/
def level : Record → Level
  | fatal _ => .error
  | spawnFailed .. => .warn
  | started _ | endOfInput | exiting _ => .info
  | words .. | dispatch .. | resolved .. | ended .. | moved .. => .debug

/-- What the record is about: the module that the log names in front of it. -/
def topic : Record → String
  | fatal _ => "myshell"
  | words .. => "myshell::lexer"
  | dispatch .. | started _ | endOfInput | exiting _ => "myshell::interpreter"
  | resolved .. | spawnFailed .. | ended .. => "myshell::external"
  | moved .. => "myshell::builtin"

/-- How a child's `Ending` reads in the log. -/
def endingText : Ending → String
  | .exited n => "exit status: " ++ toString n
  | .killed n =>
    "signal: " ++ toString n ++ match Signal.name? n with
      | some name => " (SIG" ++ name ++ ")"
      | none => ""

/-- The wording of the record.  Paths are shown by `Octets.toText`, as far as they are text. -/
def text : Record → String
  | words line ws => "tokenized " ++ Text.quoted line ++ " into " ++ Text.quotedList ws
  | dispatch name args => "dispatching " ++ Text.quoted name ++ " with " ++ Text.quotedList args
  | resolved name path => "resolved " ++ name ++ " to " ++ Octets.toText path
  | spawnFailed path e => "failed to spawn " ++ Octets.toText path ++ ": " ++ e.message
  | ended path e => Octets.toText path ++ " exited with " ++ endingText e
  | moved target dir => "cd: " ++ target ++ " -> " ++ Octets.toText dir
  | started dir => "shell started in " ++ Octets.toText dir
  | endOfInput => "end of input"
  | exiting status => "exit requested with status " ++ toString status
  | fatal f => f.message

/-- The line of the log, which begins with `time`; further lines of the wording are indented. -/
def render (time : String) (r : Record) : String :=
  let wording := r.text.toList.flatMap fun c => if c = '\n' then "\n    ".toList else [c]
  "[" ++ time ++ " " ++ r.level.label ++ " " ++ r.topic ++ "] " ++ String.ofList wording ++ "\n"

end Record

/-- The least important level that a setting lets through: the name of a level in any case; `none`
    for a setting that turns the log off.  An empty setting lets only errors through. -/
def Level.ofSetting? (setting : String) : Option Level :=
  match setting.map Char.toLower with
  | "off" => none
  | "warn" => some .warn
  | "info" => some .info
  | "debug" => some .debug
  | "trace" => some .trace
  | _ => some .error

end LineShell
