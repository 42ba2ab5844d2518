import LineShell.Program.Switches
import LineShell.Sh.Find

/-! # A program that hands over to another

It sets what another program finds when it begins, its variables and the signals that it does not
hear, and becomes that program.  With no program to become it prints the variables. -/

namespace LineShell.Program.Handover

/-- What the other program finds when it begins. -/
structure Wish where
  /-- The variables, each as a `variableText`. -/
  environment : List Octets
  /-- The signals that are not heard. -/
  deaf : List Nat

/-- The number of the signal with a name, which may begin with `SIG`. -/
def signal? (name : Octets) : Option Nat :=
  (List.range (Signal.highest + 1)).find? fun n =>
    Signal.isCatchable n && (Signal.name? n).any fun known => name = known || name = "SIG" ++ known

/-- The numbers of the signals whose names are given, with commas in between, or the first name for
    which `signal?` knows none. -/
def signals (names : Octets) : Except Octets (List Nat) :=
  (Text.pieces ',' names).mapM fun name =>
    match signal? name with
    | some n => .ok n
    | none => .error name

/-- The options of the program, which are `leading`: behind them come variables and the other
    program. -/
def options : Switches Wish where
  leading := true
  short?
    | 'i' => some fun wish => { wish with environment := [] }
    | _ => none
  long word :=
    if word = "--ignore-environment" then .ok fun wish => { wish with environment := [] }
    else match splitVariable? word with
      | some ("--ignore-signal", names) =>
        match signals names with
        | .ok ns => .ok fun wish => { wish with deaf := wish.deaf ++ ns }
        | .error name => .error (shown name ++ ": invalid signal")
      | _ => .error (unknownOption word)

/-- Set a variable, given as a `variableText`: in the place of the one with its name, or behind all
    others. -/
def setVariable (environment : List Octets) (text : Octets) : List Octets :=
  let nameOf := fun t => (splitVariable? t).map (·.1)
  if environment.any (nameOf · = nameOf text) then
    environment.map fun t => if nameOf t = nameOf text then text else t
  else environment ++ [text]

/-- Where a program may be that is called by `name`, in order: nowhere if the name is empty. -/
def places (environment : List Octets) (name : Octets) : List Octets :=
  let searchPath := (environment.filterMap splitVariable?).lookup "PATH"
  if name = "" then [] else Sh.Process.candidates (some (searchPath.getD "/bin:/usr/bin")) name

/-- Load the first program at some paths; a file without an interpreter, `Errno.execFormat`, is
    taken as a script.  If there is none, `e` is what has been amiss so far. -/
def load (v : View) (dir : Location) (environment : List Octets) (name : Octets)
    (words : List Octets) (e : Errno) : List Octets → Except Errno Image
  | [] => .error e
  | path :: rest =>
    match Image.load v dir path name words environment with
    | .ok image => .ok image
    | .error .execFormat => .ok (Image.ofTool .sh "/bin/sh" (path :: words))
    | .error found =>
      if found ∈ [.noEntry, .notDirectory, .permission] then
        -- What may not be run is remembered, what is not there is not.
        load v dir environment name words (if e = .permission then e else found) rest
      else .error found

/-- Run the program; the one that it hands over to goes on under its number, by `launch`. -/
def run (launch : Launch) : Launch := fun s w =>
  match options.read ⟨s.environment, s.deaf⟩ s.image.arguments with
  | .error text => refuse s 125 text w
  | .ok (wish, words) =>
    -- A lone hyphen asks for no variables, too.
    let (wish, words) := match words with
      | "-" :: rest => ({ wish with environment := [] }, rest)
      | words => (wish, words)
    let settings := words.takeWhile fun word => (splitVariable? word).isSome
    let environment := settings.foldl setVariable wish.environment
    match words.drop settings.length with
    | [] => .ended (.exited 0) (environment.foldl (fun w text => put s 1 (text ++ "\n") w) w)
    | name :: rest =>
      let found :=
        load (w.view s.number) s.directory environment name rest .noEntry (places environment name)
      match found with
      | .ok image => launch { s with image, environment, deaf := wish.deaf } w
      | .error e =>
        .ended (.exited (if e = .noEntry then 127 else 126)) (tell s (shown name ++ ": " ++ e.text) w)

end LineShell.Program.Handover
