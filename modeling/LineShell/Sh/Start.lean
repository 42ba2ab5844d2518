import LineShell.Sh.Run

/-! # Starting the standard shell

The standard shell as a program: its words, what it takes over from its environment, and where the
script comes from.  A script in a file, or on the input, is read in blocks, and no further than the
command that is about to be run asks for. -/

namespace LineShell.Sh

namespace Run

/-! ### Scripts that are read in blocks -/

/-- How many octets of a script are read at once. -/
def blockSize : Nat := 8192

/-- Show a part of the script that has been read, if the process says so, by `verbose`. -/
def echoRead (text : List Char) : Run Unit := do
  if (← get).has "verbose" then let _ ← write 2 (String.ofList text)

/-- The first `n` lines of a text. -/
def linesOf : Nat → List Char → List Char
  | 0, _ | _, [] => []
  | n + 1, c :: cs => c :: linesOf (if c = '\n' then n else n + 1) cs

/-- The next line of a script that goes on in an open file, or else in the input, which is read at
    most `n` times. -/
def nextLine (file : Option Nat) (unread : Unread) : Nat → Run (Except ParseError (Line × Unread))
  | 0 => return Line.next unread
  | n + 1 => do
    -- A line is complete if it does not take in what comes behind it.
    match Line.next { unread with rest := unread.rest ++ ['x'] } with
    | .ok (line, after) =>
      if !after.rest.isEmpty then
        let rest := after.rest.dropLast
        echoRead (unread.rest.take (unread.rest.length - rest.length))
        return .ok (line, { after with rest })
      else more n
    | .error _ => more n
where
  more (n : Nat) : Run (Except ParseError (Line × Unread)) := do
    let block ← match file.or ((← get).descriptors.handle? 0) with
      | some h => readFrom h blockSize
      | none => pure ""
    if block = "" then
      let result := Line.next unread
      match result with
      | .error e => echoRead (linesOf (max 1 (e.line - unread.line)) unread.rest)
      | .ok _ => echoRead unread.rest
      return result
    else nextLine file { unread with rest := unread.rest ++ (readable block).toList } n

/-- Carry out the script in an open file, or else in the input. -/
def evalFile (launch : Launch) (file : Option Nat) : Run Unit := do
  let step := fun (unread : Unread) => do
    match ← nextLine file ((← get).update unread) boundless with
    | .error e =>
      modify fun p => { p with line := e.line }
      raise ("Syntax error: " ++ e.mistake.message)
    | .ok (.ended, unread) => return (unread, false)
    | .ok (.commands c _, unread) =>
      modify fun p => { p with
        documents := unread.documents, lastLine := unread.line, scriptLine := unread.line }
      eval depthLimit launch {} c
      return (unread, true)
  let _ ← repeated step boundless { rest := [] }

/-! ### Words of the program -/

/-- Switch the options among the words of the program, as in `sh -e`; the words after them, and
    whether the first of these is a script. -/
def invocation (n : Nat) (ws : List Octets) (given : Bool) : Run (List Octets × Bool) :=
  match n, ws with
  | n + 1, w :: ws' =>
    match w.toList with
    | ['-'] | ['-', '-'] => return (ws', given)
    | sign :: letters =>
      if sign = '-' || sign = '+' then do
        let letters' := letters.filter fun c => c != 'c' && c != 'l'
        let rest ← Builtin.switchLetters false (sign == '-') letters' ws'
        invocation n rest (given || letters.contains 'c')
      else return (ws, given)
    | [] => return (ws, given)
  | _, _ => return (ws, given)

/-- Do what the words of the program ask for. -/
def main (launch : Launch) (ws : List Octets) : Run Unit := do
  perish
  let result ← attempt (invocation ws.length ws false)
  let held := (← get).held
  let _ ← write 1 held
  modify fun p => { p with held := "" }
  let (ws, given) ← resume result
  if (← get).has "interactive" then Builtin.switch true "monitor"
  Builtin.settleOptions
  match given, ws with
  | true, [] => raise "-c requires an argument"
  | true, script :: ws =>
    modify fun p => { p with
      name := ws.headD p.name, arguments := ws.tail, line := 1 }
    let more := (← get).has "stdin"
    evalText depthLimit launch { last := !more } script
    if more then evalFile launch none
  | false, [] =>
    modify fun p => { p with options := "stdin" :: p.options, line := 1 }
    evalFile launch none
  | false, path :: rest =>
    if (← get).has "stdin" then
      modify fun p => { p with arguments := ws, line := 1 }
      evalFile launch none
    else
      match ← openScript path with
      | .error e => raise (openFailure false path e)
      | .ok (_, h) =>
        modify fun p => { p with name := path, arguments := rest, line := 1 }
        evalFile launch (some h)

end Run

/-! ### The first state of a process -/

/-- Variables that every process has, whatever its environment says, such as `PPID`. -/
def ownVariables (parent : Nat) : List (Octets × Octets) :=
  [("IFS", " \t\n"), ("OPTIND", "1"), ("PPID", toString parent)]

/-- Variables that a process has if its environment does not set them, such as `PATH`. -/
def defaultVariables : List (Octets × Octets) :=
  [("PATH", Process.standardPath), ("PS1", "# "), ("PS2", "> "), ("PS4", "+ ")]

/-- The process that a `Start` gives. -/
def Process.ofStart (s : Start) (world : World) : Process :=
  let given := (s.environment.filterMap splitVariable?).filter (isName ·.1)
  let p : Process :=
    { number := s.number, shown := s.number, parent := s.parent, name := s.image.name
      directory := s.directory, mask := s.mask, limits := s.limits, line := 0, world
      -- A shell always listens for the ends of its children.
      deaf := s.deaf.filter (· ≠ Signal.childEnded) }
  let p := { p with
    bindings := defaultVariables.map fun (name, value) => (name, { value := some value }) }
  let p := given.foldl (fun p (name, value) =>
    p.setVariable name { value := some value, exported := true }) p
  let p := (ownVariables s.parent).foldl (fun p (name, value) =>
    p.setVariable name { p.binding name with value := some value }) p
  -- The directory keeps the path that it is known by, if that leads there.
  let isHere := fun path => Path.isAbsolute path &&
    match p.open? path with
    | .ok (loc, _) => loc == s.directory
    | .error _ => false
  let path := ((p.value? "PWD").filter isHere).getD s.directory.path
  { p.setVariable "PWD" { value := some path, exported := true } with path }

/-- Run the standard shell: `main` in the process of a start, up to its end. -/
def start (launch : Launch) : Launch := fun s world =>
  let life : Run Ending := do
    Run.conclude Run.depthLimit launch (← Run.attempt (Run.main launch s.image.arguments))
  (life (Process.ofStart s world)).task

end LineShell.Sh
