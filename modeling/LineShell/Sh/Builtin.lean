import LineShell.Sh.Find
import LineShell.Sh.Format
import LineShell.Sh.Job
import LineShell.Sh.Test

/-! # Commands of the standard shell itself

The commands that a script's process carries out itself and that run no other commands.  What they
print is held until they are done. -/

namespace LineShell.Sh.Builtin

open Run (raise complain print done assign awaitJobs)

/-- Commands of the shell itself whose failure does not end a script, unlike the `specialNames`. -/
def regularNames : List Octets :=
  ["[", "alias", "bg", "cd", "chdir", "command", "echo", "false", "fg", "getopts", "hash", "jobs",
    "kill", "printf", "pwd", "read", "test", "true", "type", "ulimit", "umask", "unalias",
    "wait"]

/-- Commands whose words may assign, so that `expandWords` does not cut them. -/
def declaring : List Octets := ["alias", "export", "local", "readonly"]

/-! ### Words -/

/-- A text in quotes, as the shell would read it again, with a bound on its length: single quotes
    stand in double quotes, and all else in single ones. -/
def quoteWithin (n : Nat) (cs : List Char) : List Char :=
  match n with
  | 0 => []
  | n + 1 =>
    let plain := cs.takeWhile (· ≠ '\'')
    let quotes := (cs.drop plain.length).takeWhile (· = '\'')
    let rest := cs.drop (plain.length + quotes.length)
    ['\''] ++ plain ++ ['\''] ++ (if quotes = [] then [] else ['"'] ++ quotes ++ ['"']) ++
      (if rest = [] then [] else quoteWithin n rest)

/-- A text in quotes, as the shell would read it again: `quoteWithin` its length. -/
def quote (s : Octets) : Octets := String.ofList (quoteWithin (s.length + 1) s.toList)

/-- A whole number that a word writes, from zero on; any other word is an error, `Illegal
    number`. -/
def natural (w : Octets) : Run Nat :=
  match Arithmetic.count? w with
  | some n => return n
  | none => raise ("Illegal number: " ++ w)

/-- The letters of the options in a word such as `-pa`, with the values of those that have one. -/
def optionsIn (plain valued : List Char) (more : List Octets) :
    List Char → Run (List (Char × Octets) × List Octets)
  | [] => return ([], more)
  | c :: cs => do
    if c ∈ plain then
      let (os, more) ← optionsIn plain valued more cs
      return ((c, "") :: os, more)
    else if c ∈ valued then
      if cs ≠ [] then return ([(c, String.ofList cs)], more)
      match more with
      | value :: more => return ([(c, value)], more)
      | [] => raise ("No arg for -" ++ String.singleton c ++ " option")
    else raise ("Illegal option -" ++ String.singleton c)

/-- The options that some words begin with, and the words after them or after `--`. -/
def options (plain valued : List Char) (n : Nat) (ws : List Octets) :
    Run (List (Char × Octets) × List Octets) :=
  match n, ws with
  | n + 1, w :: ws' =>
    match w.toList with
    | '-' :: c :: cs => do
      if c = '-' && cs = [] then return ([], ws')
      let (os, rest) ← optionsIn plain valued ws' (c :: cs)
      let (more, rest) ← options plain valued n rest
      return (os ++ more, rest)
    | _ => return ([], ws)
  | _, ws => return ([], ws)

/-- Split `name=value`; without `=` there is no value. -/
def assigned (w : Octets) : Octets × Option Octets :=
  match splitVariable? w with
  | some (name, value) => (name, some value)
  | none => (w, none)

/-- The name of a variable that a word gives, up to an equals sign. -/
def variableName (w : Octets) : Run Octets := do
  let name := (assigned w).1
  if !isName name then raise (name ++ ": bad variable name")
  return name

/-! ### Variables -/

/-- Print variables in the order of their names, each as `name='value'`. -/
def printVariables (front : Octets) (p : Process) (wanted : Variable → Bool) : Run Unit :=
  let shown := (p.bindings.filter (wanted ·.2)).mergeSort fun a b => a.1 ≤ b.1
  shown.forM fun (name, v) => print (front ++ name ++
    (match v.value with
      | some value => "=" ++ quote value
      | none => "") ++ "\n")

/-- Mark variables, which may get values, as `export` and `readonly` do. -/
def mark (front : Octets) (set_ : Variable → Variable) (marked : Variable → Bool)
    (ws : List Octets) : Run Unit := do
  let (os, ws) ← options ['p'] [] ws.length ws
  if ws.isEmpty || os ≠ [] then printVariables front (← get) marked
  else
    for w in ws do
      let name ← variableName w
      if let some value := (assigned w).2 then assign name value
      modify fun p => p.setVariable name (set_ (p.binding name))
  done 0

/-- Take variables or, with `-f`, functions away. -/
def unset (ws : List Octets) : Run Unit := do
  let (os, ws) ← options ['v', 'f'] [] ws.length ws
  for w in ws do
    if os.getLast?.any (·.1 == 'f') then
      modify fun p => { p with functions := p.functions.filter (·.1 != w) }
    else Run.unset (← variableName w)
  done 0

/-- Make variables local to the current call, as `local` does; the word `-` means the options. -/
def local_ (ws : List Octets) : Run Unit := do
  if (← get).hidden.isEmpty then raise "not in a function"
  for w in ws do
    if w = "-" then Run.hideOptions
    else match assigned w with
      | (name, some value) =>
        Run.hide name
        assign name value
      | _ => Run.hide (← variableName w)
  done 0

/-- Switch the option `name` on or off. -/
def switch (on : Bool) (name : Octets) : Run Unit :=
  modify fun p =>
    let others := p.options.filter (· != name)
    { p with options := if on then name :: others else others }

/-- Options have been switched, by `switches`.  Jobs are not controlled, as there is nobody at a
    terminal. -/
def settleOptions : Run Unit := do
  if (← get).has "monitor" then
    complain "can't access tty; job control turned off"
    switch false "monitor"

/-- Switch the option with a letter on or off, by `optionName?`. -/
def switchLetter (on : Bool) (letter : Char) : Run Unit :=
  match Process.optionName? letter with
  | some name => switch on name
  | none => raise ("Illegal option -" ++ String.singleton letter)

/-- Switch the option with a name on or off; without a name show how the options are.  All count as
    set as long as they are not `settled`. -/
def switchNamed (settled on : Bool) : Option Octets → Run Unit
  | some name =>
    if (Process.optionNames.lookup name).isSome then switch on name
    else raise ("Illegal option -o " ++ name)
  | none => do
    let p ← get
    let isSet := fun name => !settled || p.has name
    if on then
      print "Current option settings\n"
      for (name, _) in Process.optionNames do
        print (name ++ String.ofList (List.replicate (16 - name.length) ' ') ++
          (if isSet name then "on" else "off") ++ "\n")
    else
      for (name, _) in Process.optionNames do
        print ("set " ++ (if isSet name then "-o " else "+o ") ++ name ++ "\n")

/-- Switch the options with some letters, where `o` takes a name from the words; the words that are
    left. -/
def switchLetters (settled on : Bool) : List Char → List Octets → Run (List Octets)
  | [], ws => return ws
  | 'o' :: cs, ws => do
    switchNamed settled on ws.head?
    switchLetters settled on cs ws.tail
  | c :: cs, ws => do
    switchLetter on c
    switchLetters settled on cs ws

/-- Switch options that some words begin with; the words after them, and whether they are to be the
    arguments even if there are none, as after `--`. -/
def switches (n : Nat) (ws : List Octets) : Run (List Octets × Bool) :=
  match n, ws with
  | n + 1, w :: ws' =>
    match w.toList with
    | ['-'] => do
      switch false "xtrace"
      switch false "verbose"
      return (ws', false)
    | ['-', '-'] => return (ws', true)
    | sign :: letters =>
      if sign = '-' || sign = '+' then do
        switches n (← switchLetters true (sign == '-') letters ws')
      else return (ws, false)
    | [] => return (ws, false)
  | _, _ => return (ws, false)

/-- Set options and arguments with `switches`; without words, `printVariables`. -/
def set_ (ws : List Octets) : Run Unit := do
  if ws.isEmpty then printVariables "" (← get) (·.value.isSome)
  else
    let (rest, reset) ← switches ws.length ws
    settleOptions
    if reset || !rest.isEmpty then
      modify fun p => { p with arguments := rest, optionIndex := 1, optionPlace := none }
  done 0

/-- Leave out the first arguments, as `shift` does. -/
def shift (ws : List Octets) : Run Unit := do
  let n ← match ws with
    | [] => pure 1
    | w :: _ => natural w
  let p ← get
  if n > p.arguments.length then raise "can't shift that many"
  set { p with arguments := p.arguments.drop n, optionIndex := 1, optionPlace := none }
  done 0

/-! ### Directories -/

/-- A path from a directory, tidied up by its text: without `.`, and without names before `..`. -/
def tidy (dir target : Octets) : Octets :=
  let path := Path.join dir target
  let kept := (Text.pieces '/' path).foldl (fun kept piece =>
    if Path.isIdle piece then kept else if piece = ".." then kept.tail else piece :: kept) []
  -- Exactly two slashes in front stay.
  let root := match path.toList with
    | '/' :: '/' :: '/' :: _ => "/"
    | '/' :: '/' :: _ => "//"
    | _ => "/"
  root ++ "/".intercalate kept.reverse

/-- Go to a directory; the flag tells whether that is possible.  With `physical` its path is the one
    through all links. -/
def enter (physical : Bool) (target : Octets) : Run Bool := do
  let p ← get
  let path := if physical then target else tidy p.path target
  match p.open? path with
  | .ok (loc, .directory) =>
    let path := if physical then loc.path else path
    set { p with
      directory := loc
      tracked := p.tracked.map Tracked.aged
      world := p.world.update p.number fun m => { m with directory := loc } }
    assign "OLDPWD" p.path
    Run.export_ "OLDPWD"
    modify fun p => { p with path }
    assign "PWD" path
    Run.export_ "PWD"
    return true
  | _ => return false

/-- Change the directory, with `enter`: to `HOME`, to `OLDPWD`, along `CDPATH` or where a word
    says. -/
def cd (ws : List Octets) : Run Unit := do
  let (os, ws) ← options ['L', 'P'] [] ws.length ws
  let physical := os.getLast?.any (·.1 == 'P')
  let p ← get
  let (target, shows) := match ws with
    | [] => ((p.value? "HOME").getD "", false)
    | "-" :: _ => ((p.value? "OLDPWD").getD "", true)
    | w :: _ => (w, false)
  let front := (Text.pieces '/' target).headD ""
  let isFixed := Path.isAbsolute target || front = "." || front = ".."
  let target' := if target = "" then "." else target
  let places := match (if isFixed then none else p.value? "CDPATH") with
    | some places => (Text.pieces ':' places).map fun d =>
      if d = "" then (target', false) else (d ++ "/" ++ target', true)
    | none => []
  let isDirectory := fun path => match p.open? path with
    | .ok (_, .directory) => true
    | _ => false
  let (path, named) := (places.find? (isDirectory ·.1)).getD (target', false)
  if ← enter physical path then
    if shows || named then print ((← get).path ++ "\n")
    done 0
  else raise ("can't cd to " ++ target)

/-- Print the directory, by its path or with `-P` by that through all links. -/
def pwd (ws : List Octets) : Run Unit := do
  let (os, _) ← options ['L', 'P'] [] ws.length ws
  let p ← get
  print ((if os.getLast?.any (·.1 == 'P') then p.directory.path else p.path) ++ "\n")
  done 0

/-! ### Printing and reading -/

/-- Print as a format asks, with `Format.printf`. -/
def printf (ws : List Octets) : Run Unit := do
  let (_, ws) ← options [] [] ws.length ws
  match ws with
  | [] => raise "usage: printf format [arg ...]"
  | format :: arguments =>
    let (refused, p) := Format.printf format arguments
    p.reports.forM complain
    print (String.ofList p.text)
    match refused with
    | some text => raise text
    | none => done (if p.reports.isEmpty then 0 else 1)

/-- The pieces of a line in the input, which is left after so many characters, and whether it has
    an end.  A backslash takes away the meaning of the next character, and of a line end, unless
    `raw` is set. -/
def lineOf (raw : Bool) : List Char → List Piece × Nat × Bool
  | [] => ([], 0, false)
  | '\n' :: _ => ([], 1, true)
  | ['\\'] => if raw then ([.loose '\\'], 1, false) else ([], 1, false)
  | '\\' :: c :: cs =>
    if raw then
      let (ps, n, ended) := lineOf raw (c :: cs)
      (.loose '\\' :: ps, n + 1, ended)
    else
      let (ps, n, ended) := lineOf raw cs
      (if c = '\n' then .seam :: ps else .text (String.singleton c) true :: ps, n + 2, ended)
  | c :: cs =>
    let (ps, n, ended) := lineOf raw cs
    (if c = '\x00' then ps else .loose c :: ps, n + 1, ended)

/-- How many octets are looked at to begin with for the end of a line, by `readLine`. -/
def lookahead : Nat := 128

/-- Read a line of an open file, of which the text `before` has been read already, in at most `n`
    pieces: what it consists of, and whether it has an end.  It is told by `lineOf`. -/
def readLine (raw : Bool) (handle : Nat) (before : List Char) : Nat → Run (List Piece × Bool)
  | 0 => return ([], false)
  | n + 1 => do
    Run.waitUntil (fun w => !w.isDry handle) true
    let p ← get
    let more := (p.world.peek handle (before.length + lookahead)).toOption.getD []
    let (ps, count, ended) := lineOf raw (before ++ more)
    set { p with world := p.world.skip handle (count - before.length) }
    -- Nothing comes at the end of the file, or if a signal has come in between.
    if ended || more.isEmpty then return (ps, ended)
    readLine raw handle (before ++ more) n

/-- Read a line into variables, with `readLine` and `lineFields`. -/
def read (ws : List Octets) : Run Unit := do
  let (os, names) ← options ['r'] ['p'] ws.length ws
  if names.isEmpty then raise "arg count"
  let (ps, ended) ← match (← get).descriptors.handle? 0 with
    | some handle => readLine (os.any (·.1 == 'r')) handle [] Run.boundless
    | none => pure ([], false)
  let values := lineFields (← get).separators names.length ps
  for (name, i) in names.zipIdx do
    assign (← variableName name) (values.getD i "")
  done (if ended then 0 else 1)

/-! ### Options of scripts -/

/-- Take the next option out of words, as `getopts` does for a script. -/
def getopts (ws : List Octets) : Run Unit := do
  let known :: name :: given := ws | raise "Usage: getopts optstring var [arg...]"
  let p ← get
  let words := if given.isEmpty then p.arguments else given
  -- If no answer can be given, it begins anew the next time.
  set { p with optionIndex := 1, optionPlace := none }
  let started := p.optionIndex ≤ words.length + 1
  let index := if started then p.optionIndex else 1
  -- Where the word before the index goes on, or else the word at the index.
  let within := (if started then p.optionPlace else none).bind fun place =>
    (words[index - 2]?).bind fun w =>
      if 2 ≤ index && place < w.length then some (w.toList, place) else none
  let finish := fun (answer : Char) (next : Nat) (place : Option Nat) (status : Nat) => do
    assign "OPTIND" (toString next)
    modify fun q => { q with optionIndex := 1, optionPlace := none }
    assign (← variableName name) (String.singleton answer)
    modify fun q => { q with optionIndex := next, optionPlace := place }
    done status
  let refuse := fun (mark : Char) (text : Octets) (c : Char) (next : Nat) (place : Option Nat) => do
    if known.toList.head? = some ':' then
      assign "OPTARG" (String.singleton c)
      finish mark next place 0
    else
      let _ ← Run.write 2 (text ++ "\n")
      Run.unset "OPTARG"
      finish '?' next place 0
  let take := fun (cs : List Char) (place next : Nat) => do
    let c := cs.getD place '?'
    let rest := cs.drop (place + 1)
    match found? c known.toList with
    | none => refuse '?' ("Illegal option -" ++ String.singleton c) c next (some (place + 1))
    | some false =>
      assign "OPTARG" ""
      finish c next (some (place + 1)) 0
    | some true =>
      if rest ≠ [] then
        assign "OPTARG" (String.ofList rest)
        finish c next none 0
      else match words[next - 1]? with
        | some value =>
          assign "OPTARG" value
          finish c (next + 1) none 0
        | none =>
          refuse ':' ("No arg for -" ++ String.singleton c ++ " option") c next none
  match within, (words[index - 1]?).map String.toList with
  | some (cs, place), _ => take cs place index
  | none, some ['-', '-'] => finish '?' (index + 1) none 1
  | none, some ('-' :: c :: cs) => take ('-' :: c :: cs) 1 (index + 1)
  | none, _ => finish '?' index none 1
where
  /-- Does the option with a letter take a value?  `none` if there is no such option. -/
  found? (c : Char) : List Char → Option Bool
    | [] => none
    | d :: ':' :: ds => if c = d then some true else found? c ds
    | d :: ds => if c = d then some false else found? c ds

/-! ### Processes and signals -/

/-- The name of a signal, or of the end of a process. -/
def signalName (n : Nat) : Octets :=
  if n = 0 then "EXIT"
  -- One of the names is not in use here.
  else if n = 16 then "16"
  else (Signal.name? n).getD (
    if n < Signal.firstFree then toString n
    else if n = Signal.firstFree then "RTMIN"
    else if n = Signal.highest then "RTMAX"
    else if n ≤ 49 then "RTMIN+" ++ toString (n - Signal.firstFree)
    else "RTMAX-" ++ toString (Signal.highest - n))

/-- The number of the signal that a word means, from `low` on: a number, or a name as in
    `signalName`. -/
def signal? (low : Nat) (w : Octets) : Option Nat :=
  match Text.natural? w with
  | some n => if n ≤ Signal.highest then some n else none
  | none => ((List.range (Signal.highest + 1)).drop low).find? fun n =>
    signalName n == w.map Char.toUpper

/-- The process in the background that a word means, by `job?`. -/
def jobOf (w : Octets) : Run Job := do
  match (← get).job? w with
  | .ok j => return j
  | .error text => raise text

/-- Send signals, or with `-l` list their names. -/
def kill (ws : List Octets) : Run Unit := do
  let usage : Run Unit := raise
    "Usage: kill [-s sigspec | -signum | -sigspec] [pid | job]... or\nkill -l [exitstatus]"
  let (signal, list, ws) ← match ws with
    | w :: rest =>
      match w.toList with
      | '-' :: name =>
        match signal? 1 (String.ofList name) with
        | some n => pure (some n, false, rest)
        | none => do
          let (os, rest) ← options ['l'] ['s'] ws.length ws
          let signal ← match os.reverse.find? (·.1 == 's') with
            | some (_, name) =>
              match signal? 1 name with
              | some n => pure (some n)
              | none => raise ("invalid signal number or name: " ++ name)
            | none => pure none
          pure (signal, os.any (·.1 == 'l'), rest)
      | _ => pure (none, false, ws)
    | [] => pure (none, false, [])
  if list then
    match ws with
    | [] =>
      print "0\n"
      for n in (List.range (Signal.highest + 1)).drop 1 do print (signalName n ++ "\n")
      done 0
    | w :: _ =>
      let n ← natural w
      let n := if n > 128 then n - 128 else n
      if 0 < n && n ≤ Signal.highest then
        print (signalName n ++ "\n")
        done 0
      else raise ("invalid signal number or exit status: " ++ w)
  else if ws.isEmpty then usage
  else
    let signal := signal.getD 15
    let mut failed := false
    for w in ws do
      let number ← if w.toList.head? = some '%' then do
          -- Processes that are not controlled make no group to send to.
          let _ ← jobOf w
          pure none
        else do
          match w.toList with
          | '-' :: cs => do
            let _ ← natural (String.ofList cs)
            pure none
          | _ => some <$> natural w
      let p ← get
      match (number.map fun n => p.world.send n signal).getD (.error .noProcess) with
      | .ok world =>
        set { p with world }
        -- Who does not belong to the process may be waiting for it.
        let parent? := (number.bind world.peer?).map (·.parent)
        if number ≠ some p.number && parent? ≠ some p.number then Run.pause fun _ => true
      | .error e =>
        complain (e.text ++ "\n")
        failed := true
    done (if failed then 1 else 0)

/-- Make arrangements for signals, or show them as `trap` commands. -/
def trap (ws : List Octets) : Run Unit := do
  let (_, ws) ← options [] [] ws.length ws
  match ws with
  | [] =>
    let p ← get
    for n in List.range (Signal.highest + 1) do
      if let some action := p.trap? n then
        print ("trap -- " ++ quote action ++ " " ++ signalName n ++ "\n")
    done 0
  | w :: rest =>
    let given := !rest.isEmpty && (Text.natural? w).isNone
    let action := if given && w ≠ "-" then some w else none
    let mut bad := false
    for name in (if given then rest else ws) do
      if !bad then
        match signal? 0 name with
        | none =>
          let _ ← Run.write 2 ("trap: " ++ name ++ ": bad trap\n")
          bad := true
        | some n =>
          modify fun p =>
            let others := p.traps.filter (·.1 != n)
            { p with traps := (action.map (n, ·)).toList ++ others }
    done (if bad then 1 else 0)

/-- Go on with processes in the background, as `fg` and `bg` would, which is refused. -/
def resume_ (ws : List Octets) : Run Unit := do
  let (_, ws) ← options [] [] ws.length ws
  let _ ← jobOf (ws.headD "%")
  raise ("job " ++ ws.headD "(null)" ++ " not created under job control")

/-- Show processes in the background, each by its `line`.  One that has ended is forgotten then,
    unless only its number is shown. -/
def jobs (ws : List Octets) : Run Unit := do
  let (os, ws) ← options ['l', 'p'] [] ws.length ws
  Run.reap
  let shown ← if ws.isEmpty then pure (← get).jobs else ws.mapM jobOf
  for j in shown do
    if os.getLast?.any (·.1 == 'p') then print (toString j.first ++ "\n")
    else
      let p ← get
      let isAt := fun (k : Option Job) => k.any (·.number == j.number)
      let mark := if isAt p.jobs.head? then '+' else if isAt p.jobs.tail.head? then '-' else ' '
      print (j.line mark (!os.isEmpty))
      if j.isOver then
        modify fun p => { p with jobs := p.jobs.filter (·.number != j.number) }
  done 0

/-- Wait for processes in the background, with `awaitJobs`. -/
def wait (ws : List Octets) : Run Unit := do
  let (_, ws) ← options [] [] ws.length ws
  if ws.isEmpty then
    let signal ← awaitJobs fun p => p.jobs.all (·.isOver)
    modify fun p => { p with
      jobs := (p.jobs.takeWhile (·.isOver)).map ({ · with waited := true }) ++
        p.jobs.dropWhile (·.isOver) }
    match signal with
    | some signal => done (128 + signal)
    | none => done 0
  else
    let mut status := 127
    for w in ws do
      if w.toList.head? = some '%' then let _ ← jobOf w else let _ ← natural w
      if let .ok j := (← get).job? w then
        let isIt := fun (k : Job) => k.number == j.number
        if let some signal ← awaitJobs fun p => p.jobs.all fun k => !isIt k || k.isOver then
          return ← done (128 + signal)
        let now := ((← get).jobs.find? isIt).getD j
        modify fun p => { p with
          jobs := p.jobs.map fun k => if isIt k then { k with waited := true } else k }
        -- What ends before one waits for it is not reported.
        for (before, after) in j.front.zip now.front do
          if before.2.isNone then after.2.forM Run.report
        if j.ending.isNone then now.ending.forM Run.report
        status := (now.ending.map statusOf).getD status
    done status

/-- The letters `r`, `w` and `x` of the permissions that three bits of a mask leave. -/
def permissions (bits : Nat) : Octets :=
  (if bits &&& 4 = 0 then "r" else "") ++ (if bits &&& 2 = 0 then "w" else "") ++
    (if bits &&& 1 = 0 then "x" else "")

/-- Change permission bits as the operators of a clause ask, for the classes of users that `who`
    covers.  A letter of a class stands for the bits that the class had. -/
def changeMode (who old : Nat) : Char → Nat → List Char → Option Nat
  | _, mode, [] => some mode
  | op, mode, c :: cs =>
    let bits? : Option Nat := match c with
      | 'r' => some 0o444
      | 'w' => some 0o222
      | 'x' => some 0o111
      | 'X' => some (if old &&& 0o111 = 0 then 0 else 0o111)
      | 's' => some 0
      | 'u' => some (old / 64 * 73)
      | 'g' => some (old / 8 % 8 * 73)
      | 'o' => some (old % 8 * 73)
      | _ => none
    match bits? with
    | some bits =>
      changeMode who old op
        (if op = '-' then mode - (mode &&& bits &&& who) else mode ||| (bits &&& who)) cs
    | none =>
      if c = '=' then changeMode who old c (mode - (mode &&& who)) cs
      else if c = '+' || c = '-' then changeMode who old c mode cs
      else none

/-- Change permission bits as clauses ask, which consist of classes of users and operators with
    letters, as in `u+x,go=`.  `old` is what the bits were at first. -/
def changedMode? (old mode : Nat) : List (List Char) → Option Nat
  | [] => some mode
  | clause :: rest =>
    let classes := clause.takeWhile (· ∈ ['u', 'g', 'o', 'a'])
    let who := if classes.isEmpty then 0o777 else classes.foldl (fun n c => n ||| match c with
      | 'u' => 0o700
      | 'g' => 0o070
      | 'o' => 0o007
      | _ => 0o777) 0
    match clause.drop classes.length with
    | [] => if classes.isEmpty || !rest.isEmpty then none else some mode
    | op :: cs =>
      if op ∈ ['+', '-', '='] then
        (changeMode who old op mode (op :: cs)).bind (changedMode? old · rest)
      else none

/-- Show or set the permission bits that new files do not get, in octal digits or by
    `changedMode?`. -/
def umask (ws : List Octets) : Run Unit := do
  let (os, ws) ← options ['S'] [] ws.length ws
  match ws with
  | [] =>
    let mask := (← get).mask
    if os ≠ [] then
      print ("u=" ++ permissions (mask / 64) ++ ",g=" ++ permissions (mask / 8 % 8) ++ ",o=" ++
        permissions (mask % 8) ++ "\n")
    else
      let ds := Nat.toDigits 8 mask
      print (String.ofList (List.replicate (4 - ds.length) '0' ++ ds) ++ "\n")
    done 0
  | w :: _ =>
    if w.toList.head?.any Char.isDigit then
      if !w.toList.all Format.isOctal then raise ("Illegal number: " ++ w)
      modify fun p => { p with mask := w.toList.foldl (fun n d => n * 8 + (d.toNat - 48)) 0 % 512 }
    else
      let clauses := Text.pieces ',' w
      let clauses := if clauses.getLast? = some "" then clauses.dropLast else clauses
      let mode := 511 - (← get).mask
      match changedMode? mode mode (clauses.map String.toList) with
      | some mode => modify fun p => { p with mask := 511 - mode }
      | none => raise ("Illegal mode: " ++ w)
    done 0

/-- What may be limited by `ulimit`: its letter, how it is called, and the unit that it is counted
    in. -/
def limited : List (Char × Resource × Octets × Nat) :=
  [('t', .time, "time(seconds)", 1), ('f', .fileSize, "file(blocks)", 512),
    ('d', .data, "data(kbytes)", 1024), ('s', .stack, "stack(kbytes)", 1024),
    ('c', .core, "coredump(blocks)", 512), ('m', .memory, "memory(kbytes)", 1024),
    ('l', .locked, "locked memory(kbytes)", 1024), ('p', .processes, "process", 1),
    ('n', .openFiles, "nofiles", 1), ('v', .space, "vmemory(kbytes)", 1024),
    ('w', .locks, "locks", 1), ('r', .priority, "rtprio", 1)]

/-- A bound as it is shown, counted in a unit; no bound is `unlimited`. -/
def boundText (unit : Nat) : Option Nat → Octets
  | none => "unlimited\n"
  | some n => toString (n / unit) ++ "\n"

/-- The bound that a word gives in a unit.  Numbers are of 64 bits, and the highest is no bound. -/
def boundOf (unit : Nat) (w : Octets) : Run (Option Nat) := do
  if w = "unlimited" then return none
  if !w.toList.all Char.isDigit then raise "bad number"
  let n := w.toList.foldl (fun n d => n * 10 + (d.toNat - 48)) 0 * unit % 0x10000000000000000
  return if n = 0xffffffffffffffff then none else some n

/-- Show a limit, or set it with `Limits.change`.  Without a choice both parts of it are set, and
    the soft one is shown. -/
def ulimit (ws : List Octets) : Run Unit := do
  let (os, ws) ← options "HSatfdsmcnpvlwr".toList [] ws.length ws
  let part := (os.map (·.1)).reverse.find? fun c => c = 'H' || c = 'S'
  let resource := (os.map (·.1)).reverse.find? fun c => (limited.lookup c).isSome
  let (resource, _, unit) := (limited.lookup (resource.getD 'f')).getD (.fileSize, "", 1)
  let shown := fun (l : Limit) => if part = some 'H' then l.hard else l.soft
  let p ← get
  let all := os.any (·.1 == 'a')
  match ws with
  | [] =>
    if all then
      for (_, resource, label, unit) in limited do
        print (label ++ String.ofList (List.replicate (20 - label.length) ' ') ++ " " ++
          boundText unit (shown (p.limits.get resource)))
    else print (boundText unit (shown (p.limits.get resource)))
  | w :: more =>
    if all || !more.isEmpty then raise "too many arguments"
    let bound ← boundOf unit w
    let old := p.limits.get resource
    match p.limits.change resource
        { soft := if part = some 'H' then old.soft else bound
          hard := if part = some 'S' then old.hard else bound } with
    | .ok limits => set { p with limits }
    | .error e => raise ("error setting limit (" ++ e.text ++ ")")
  done 0

/-! ### Names -/

/-- Say what a name means as a command, where programs may have to be found in the `standardPath`;
    the flag tells whether it means anything. -/
def describe (verbose standard : Bool) (name : Octets) : Run Bool := do
  let p ← get
  let tell := fun (kind short : Octets) => do
    print ((if verbose then name ++ " is " ++ kind else short) ++ "\n")
    return true
  if name ∈ reserved then tell "a shell keyword" name
  else if let some value := p.aliases.lookup name then
    tell ("an alias for " ++ value) ("alias " ++ name ++ "=" ++ quote value)
  else if (p.functions.lookup name).isSome then tell "a shell function" name
  else if name ∈ specialNames then tell "a special shell builtin" name
  else if name ∈ regularNames then tell "a shell builtin" name
  else
    let missing := do
      if verbose then print (name ++ ": not found\n")
      return false
    if name.toList.contains '/' then
      if (p.open? name).toBool then tell name name else missing
    else
      let path := fun (place : Nat) =>
        ((Process.candidates (p.searchPath standard) name)[place]?).getD name
      match p.tracked? name with
      | some t =>
        if !standard then
          return ← tell ("a tracked alias for " ++ path t.place) (path t.place)
      | none => pure ()
      let (found, p) := p.locate standard name
      set p
      match found with
      | .ok place => tell (path place) (path place)
      | .error _ => missing

/-- Say what names mean as commands, with `describe` for each. -/
def type (verbose standard : Bool) (ws : List Octets) : Run Unit := do
  let mut status := 0
  for w in ws do
    if !(← describe verbose standard w) then status := 127
  done status

/-- Say what a name means as a command, if that is asked for by `-v` or `-V`. -/
def command (ws : List Octets) : Run Unit := do
  let (os, ws) ← options ['p', 'v', 'V'] [] ws.length ws
  let has := fun (c : Char) => os.any (·.1 == c)
  match ws with
  | name :: _ => if has 'v' || has 'V' then type (has 'V') (has 'p') [name] else done 0
  | [] => done 0

/-- The group that a name belongs to when all names are listed, of `groups`. -/
def nameGroup (groups : Nat) (name : Octets) : Nat :=
  let first := (name.toList.headD '\x00').toNat
  name.toList.foldl (fun n c => n + c.toNat) (first * 16) % 32768 % groups

/-- Name commands anew, as `alias` does, or show their new names. -/
def alias_ (ws : List Octets) : Run Unit := do
  let mut status := 0
  if ws.isEmpty then
    let listed := (← get).aliases.mergeSort fun a b => nameGroup 39 a.1 ≤ nameGroup 39 b.1
    for (name, value) in listed do print (name ++ "=" ++ quote value ++ "\n")
  for w in ws do
    -- A sign of equality that comes first belongs to the name.
    let name := w.toList.take 1 ++ (w.toList.drop 1).takeWhile (· ≠ '=')
    let value := w.toList.drop (name.length + 1)
    let name := String.ofList name
    if name ≠ w then
      modify (·.nameAnew name (String.ofList value))
    else match (← get).aliases.lookup name with
      | some value => print (name ++ "=" ++ quote value ++ "\n")
      | none =>
        let _ ← Run.write 2 ("alias: " ++ name ++ " not found\n")
        status := 1
  done status

/-- Take new names of commands away, with `-a` all of them. -/
def unalias (ws : List Octets) : Run Unit := do
  let (os, ws) ← options ['a'] [] ws.length ws
  if os ≠ [] then
    modify fun p => { p with aliases := [] }
    done 0
  else
    let mut status := 0
    for w in ws do
      if ((← get).aliases.lookup w).isNone then
        let _ ← Run.write 2 ("unalias: " ++ w ++ " not found\n")
        status := 1
      modify fun p => { p with aliases := p.aliases.filter (·.1 != w) }
    done status

/-- Look programs up beforehand with `locate`, or list those that have been found. -/
def hash (ws : List Octets) : Run Unit := do
  let (os, ws) ← options ['r'] [] ws.length ws
  if os ≠ [] then
    modify fun p => { p with tracked := [] }
    return ← done 0
  let mut status := 0
  if ws.isEmpty then
    let p ← get
    for t in p.tracked.mergeSort fun s t => nameGroup 31 s.name ≤ nameGroup 31 t.name do
      let path := (Process.candidates (p.searchPath false) t.name)[t.place]?
      print (path.getD t.name ++ (if t.stale then "*\n" else "\n"))
  for w in ws do
    let p ← get
    let isKnown := (p.functions.lookup w).isSome || w ∈ specialNames || w ∈ regularNames
    if !isKnown && !w.toList.contains '/' then
      let (found, p) := (p.untrack w).locate false w
      set p
      if let .error e := found then
        complain (w ++ ": " ++ Process.amiss e)
        status := 1
  done status

/-! ### The end of commands -/

/-- End the process with a status, as `Jump.leaving` does. -/
def exit (ws : List Octets) : Run Unit := do
  match ws, (← get).statusBefore with
  | w :: _, _ => done (← natural w)
  | [], some status => done status
  | [], none => pure ()
  throw .leaving

/-- Come back from a function or from a script that is read in place: `Jump.returning`. -/
def return_ (ws : List Octets) : Run Unit := do
  if let w :: _ := ws then done (← natural w)
  throw (.returning !ws.isEmpty)

/-- Leave a loop, or its current round, as `break` and `continue` do. -/
def leave (jump : Nat → Jump) (ws : List Octets) : Run Unit := do
  let n ← match ws with
    | [] => pure 1
    | w :: _ => do
      let n ← natural w
      if n = 0 then raise ("Illegal number: " ++ w)
      pure n
  done 0
  let loops := (← get).loops
  if loops ≠ 0 then throw (jump (min n loops))

/-- What a command of the shell itself does that runs no other commands; `eval` and such are dealt
    with where commands are run. -/
def act? (name : Octets) (ws : List Octets) : Option (Run Unit) :=
  match name with
  | ":" | "true" => some (done 0)
  | "false" => some (done 1)
  | "[" =>
    some (if (ws.getLastD "").startsWith "]" then do done (if ← Test.test ws.dropLast then 0 else 1)
      else raise "missing ]")
  | "test" => some do done (if ← Test.test ws then 0 else 1)
  | "alias" => some (alias_ ws)
  | "unalias" => some (unalias ws)
  | "bg" | "fg" => some (resume_ ws)
  | "jobs" => some (jobs ws)
  | "hash" => some (hash ws)
  | "times" => some do print "0m0.000000s 0m0.000000s\n0m0.000000s 0m0.000000s\n"; done 0
  | "break" => some (leave .breaking ws)
  | "continue" => some (leave .continuing ws)
  | "cd" | "chdir" => some (cd ws)
  | "command" => some (command ws)
  | "echo" => some do print (Format.echo ws); done 0
  | "exit" => some (exit ws)
  | "export" => some (mark "export " ({ · with exported := true }) (·.exported) ws)
  | "readonly" => some (mark "readonly " ({ · with readOnly := true }) (·.readOnly) ws)
  | "getopts" => some (getopts ws)
  | "kill" => some (kill ws)
  | "local" => some (local_ ws)
  | "printf" => some (printf ws)
  | "pwd" => some (pwd ws)
  | "read" => some (read ws)
  | "return" => some (return_ ws)
  | "set" => some (set_ ws)
  | "shift" => some (shift ws)
  | "trap" => some (trap ws)
  | "type" => some (type true false ws)
  | "ulimit" => some (ulimit ws)
  | "umask" => some (umask ws)
  | "unset" => some (unset ws)
  | "wait" => some (wait ws)
  | _ => none

end LineShell.Sh.Builtin
