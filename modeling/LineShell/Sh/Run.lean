import LineShell.Sh.Builtin
import LineShell.Sh.Glob
import LineShell.Sh.Redirect

/-! # Running commands

Words are expanded and commands carried out here.  Programs that a script starts are run by a
`Launch`, which the caller supplies.  A process that starts another one goes on itself until it
waits for something.  The functions recurse on a bound for how deep commands may be nested. -/

namespace LineShell.Sh

/-- How the surroundings of a command look at it, for `eval`. -/
structure Mode where
  /-- The status is looked at, so that a failure is no reason to end. -/
  tested : Bool := false
  /-- The process does nothing after it. -/
  last : Bool := false

/-- How a word is expanded, by `expand`. -/
structure Shape where
  /-- Several fields may come out. -/
  split : Bool := false
  /-- Unquoted text may be cut too, as it is the word of a parameter. -/
  loose : Bool := false

namespace Run

open Sh.Builtin (declaring regularNames)

/-! ### Tildes -/

/-- The home directory of a user, for `~user`; without a name, of the one who runs the script. -/
def homeOf? (p : Process) (user : Octets) : Option Octets :=
  if user = "" then p.value? "HOME" else if user = "root" then some "/root" else none

/-- The parts of unquoted text that begins with a tilde and is followed by nothing, if `final` is
    set. -/
def tildePart (p : Process) (final : Bool) (s : Octets) : List Part :=
  match s.toList with
  | '~' :: cs =>
    let user := cs.takeWhile (· ≠ '/')
    let rest := cs.drop user.length
    if rest = [] && !final then [.text s false]
    else match homeOf? p (String.ofList user) with
      | some home => [.text home true, .text (String.ofList rest) false]
      | none => [.text s false]
  | _ => [.text s false]

/-- Put home directories in the place of tildes: where a word begins, and in a value that is
    `assigned` also after each `:`. -/
def tildes (p : Process) (assigned first : Bool) : List Part → List Part
  | [] => []
  | .text s false :: rest =>
    if assigned then
      let pieces := Text.pieces ':' s
      let last := pieces.length - 1
      let ps := pieces.zipIdx.flatMap fun (piece, i) =>
        (if i = 0 then [] else [Part.text ":" false]) ++
          (if i = 0 && !first then [.text piece false]
           else tildePart p (i < last || rest.isEmpty) piece)
      ps ++ tildes p assigned false rest
    else if first then tildePart p rest.isEmpty s ++ rest
    else .text s false :: rest
  | part :: rest => if assigned then part :: tildes p assigned false rest else part :: rest

/-! ### Parameters -/

/-- All arguments, `$@` or `$*`: as they are, where fields may come out of them, and else as one
    text. -/
def argumentTexts (p : Process) (name : Octets) (quoted : Bool) (shape : Shape) : List Octets :=
  let between := match p.separators.toList with
    | c :: _ => String.singleton c
    | [] => ""
  if !shape.split || (quoted && name = "*") then [between.intercalate p.arguments]
  else if quoted || (p.value? "IFS").isSome then p.arguments
  else [" ".intercalate p.arguments]

/-- The value of a parameter, if it is set, which may be several texts.  The list of arguments
    counts as set. -/
def valueOf? (p : Process) (name : Octets) (quoted : Bool) (shape : Shape) :
    Option (List Octets) :=
  if name = "@" || name = "*" then some (argumentTexts p name quoted shape)
  else (p.parameter? name).map ([·])

/-- The pieces of texts that have been made of the value of a parameter. -/
def textPieces (p : Process) (name : Octets) (quoted split : Bool) (texts : List Octets) :
    List Piece :=
  let pieces := fun (t : Octets) =>
    if quoted || !split then [.text t quoted] else Piece.looseChars t
  let ps := ((texts.map pieces).intersperse [.cut]).flatten
  if !quoted then .seam :: ps
  else if name = "@" && !p.arguments.isEmpty then .list :: ps
  else ps

/-- The value of a parameter, by `valueOf?`.  An unset one is an error if the process says so, by
    `nounset`. -/
def value (name : Octets) (quoted : Bool) (shape : Shape) : Run (List Octets) := do
  let p ← get
  match valueOf? p name quoted shape with
  | some texts => return texts
  | none =>
    if p.has "nounset" then raise (name ++ ": parameter not set")
    return []

/-! ### Processes -/

/-- The process that comes from a process when it divides, in a world that is still to come. -/
def childOf (p : Process) (number : Nat) : Process :=
  { p with
    world := .void, number, parent := p.number, jobs := [], statusBefore := none
    rounds := 0, spells := 0, former := [], lastLine := p.scriptLine
    traps := p.traps.filter fun t => t.1 != 0 && t.2 == "" }

/-- What a program is started with by the process, under a number, as a `Start`. -/
def startOf (p : Process) (image : Image) (number parent : Nat) : Start where
  image
  environment := p.environment
  directory := p.directory
  number
  parent
  -- A shell always listens for the ends of its children, and so do the programs that it starts.
  deaf := p.unheard.filter (· ≠ Signal.childEnded)
  mask := p.mask
  limits := p.limits

/-- Let a new process begin as a likeness of this one, with its open files after a change, apart
    from the scripts that it reads. -/
def enlist (change : Descriptors → Descriptors) : Run Nat := do
  let p ← get
  let (number, world) := p.world.enlist
    { p.self with parent := p.number, descriptors := change p.descriptors, scripts := [] }
  set { p with world }
  return number

/-- How deeply commands may be nested, for `exceedsStack`. -/
def depthLimit : Nat := 60000

/-- How many octets of memory a command takes that is carried out inside another one. -/
def commandSize : Nat := 140

/-- How many octets of memory there are for nested commands even if the limit is lowered. -/
def leastStack : Nat := 0x21000

/-- Are commands nested more deeply than the limit of the process allows, if `n` more would fit
    without one? -/
def exceedsStack (n : Nat) (p : Process) : Bool :=
  (p.limits.soft .stack).any (max · leastStack < (depthLimit - n) * commandSize)

/-- How many functions may be carried out inside one another, by `call`. -/
def callLimit : Nat := 1000

/-- Does the process make arrangements for anything? -/
def hasTraps (p : Process) : Bool := p.traps.any (·.2 != "")

/-- How a name is looked up, as the command `command` tells. -/
structure Manner where
  /-- Functions do not count, and a special command is none. -/
  plain : Bool := false
  /-- Programs are found in the standard search path. -/
  standard : Bool := false

/-- The words behind the command `command` and its options, if they are a command to be run, and
    whether it is to be found in the standard search path. -/
def behindCommand? (standard : Bool) : List Octets → Option (List Octets × Bool)
  | [] => none
  | w :: rest =>
    match w.toList with
    | ['-', '-'] => if rest.isEmpty then none else some (rest, standard)
    | '-' :: c :: cs => if (c :: cs).all (· = 'p') then behindCommand? true rest else none
    | _ => some (w :: rest, standard)

/-- The words of a command without leading `command`s, and how it is looked up. -/
def unwrap (p : Process) : Nat → Manner → List Octets → List Octets × Manner
  | n + 1, m, "command" :: rest =>
    if !m.plain && (p.functions.lookup "command").isSome then ("command" :: rest, m)
    else match behindCommand? m.standard rest with
      | some (ws, standard) => unwrap p n { plain := true, standard } ws
      | none => ("command" :: rest, m)
  | _, m, ws => (ws, m)

/-- What a command name means, by `meaning`. -/
inductive Meaning where
  | special
  | function (body : Command)
  | regular
  | program

/-- Look beforehand for the program of a command that a process of its own is to run, so that it is
    remembered here too. -/
def prepare (c : Command) : Run Unit := do
  let p ← get
  match c with
  | .simple _ _ (word :: _) _ =>
    match plainText? word with
    | some name =>
      let isKnown := (p.functions.lookup name).isSome || name ∈ specialNames ||
        name ∈ regularNames
      if isName name && !isKnown then set (p.locate false name).2
    | none => pure ()
  | _ => pure ()

/-- What a command name means in a process; functions do not count for the command `command`. -/
def meaning (p : Process) (plain : Bool) (name : Octets) : Meaning :=
  match (if plain then none else p.functions.lookup name) with
  | some f => .function f
  | none =>
    if name ∈ specialNames then .special
    else if name ∈ regularNames then .regular
    else .program

/-- A redirection whose word has been expanded.  A text that follows in the script is expanded only
    when it is carried out. -/
inductive Redirection where
  | file (fd : Nat) (kind : RedirectKind) (word : Octets)
  | document (fd number : Nat)

/-- Do a part of a round of a loop.  If there is a `Jump` in it that is meant for this loop, come
    out with whether the loop goes on. -/
def round {α : Type} (r : Run α) : Run (Except Bool α) := do
  match ← attempt r with
  | .error (.breaking k) => if k ≤ 1 then return .error false else throw (.breaking (k - 1))
  | .error (.continuing k) => if k ≤ 1 then return .error true else throw (.continuing (k - 1))
  | result => return .ok (← resume result)

/-- Do something inside one loop more, which `loops` counts. -/
def looping {α : Type} (r : Run α) : Run α := do
  modify fun p => { p with loops := p.loops + 1 }
  let result ← attempt r
  modify fun p => { p with loops := p.loops - 1 }
  resume result

/-- Do something for each item, as long as it gives `true`. -/
def forEach {α : Type} (step : α → Run Bool) : List α → Run Unit
  | [] => return ()
  | a :: as => do
    countRound
    if ← step a then forEach step as

/-- Carry out a command of the shell itself, and print what it has `held` back. -/
def perform (name : Octets) (special : Bool) (r : Run Unit) : Run Unit := do
  let before ← get
  set { before with command := some name, held := "" }
  let result ← attempt r
  let text := (← get).held
  modify fun p => { p with held := before.held }
  let made ← write 1 text
  if let .ok () := result then
    if !made then
      complain (name ++ ": I/O error")
      modify fun p => { p with status := p.status ||| 1 }
  modify fun p => { p with command := before.command }
  match result with
  | .error .failed => if special then throw .failed
  | result => resume result

/-- Come back from a function, unless the status that it comes back with is a reason to end, by
    `errexit`. -/
def heed (mode : Mode) (r : Run Unit) : Run Unit := do
  match ← attempt r with
  | .error (.returning given) =>
    let p ← get
    throw (if p.has "errexit" && !mode.tested && p.status ≠ 0 then .leaving else .returning given)
  | result => resume result

/-- Run a program in place of the process, by `become`.  Others have their turn while it is
    loaded. -/
def runInstead (launch : Launch) (image : Image) : Run Unit := do
  pause fun _ => true
  perish
  let p ← get
  let start := startOf p image p.number p.parent
  become (launch start)

/-- Run a program, which may have to be found in the standard search path, as `Process.locate`
    does. -/
def execute (launch : Launch) (mode : Mode) (standard : Bool) (name : Octets)
    (args : List Octets) : Run Unit := do
  let p ← get
  let (found, p) := if name.toList.contains '/' then (.ok 0, p) else p.locate standard name
  set p
  match found with
  | .error e =>
    complain (name ++ ": " ++ Process.amiss e)
    done 127
  | .ok place =>
    let paths := Process.candidates (p.searchPath standard) name
    match p.load (paths.drop place) name args with
    | .error (text, status) =>
      -- It has been tried by a process of its own.
      complain text
      bereave
      done status
    | .ok image =>
      if mode.last && !hasTraps (← get) then runInstead launch image
      else
        modify fun p => p.claim.2
        let number ← enlist id
        let p ← get
        let start := startOf p image number p.number
        begin_ number fun w => .waits w (fun _ => true) (launch start)
        done (statusOf (← awaitAll [number]))

/-- Run a program in place of the process, as `exec` does, which ends if there is none. -/
def replace (launch : Launch) (ws : List Octets) : Run Unit := do
  match ws with
  | [] => done 0
  | name :: args =>
    let p ← get
    match p.load (Process.candidates (p.searchPath false) name) name args with
    | .error (text, status) =>
      complain text
      done status
      throw .leaving
    | .ok image => runInstead launch image

/-- The number of a script that is read in place, by `.`, the path that is shown for it, and its
    text. -/
def sourced (name : Octets) : Run (Nat × Octets × Octets) := do
  let p ← get
  let isFile := fun path => match p.fileAt? path with
    | some (.file ..) => true
    | _ => false
  let some path := (if name.toList.contains '/' then some name
    else (Process.candidates (p.searchPath false) name).find? isFile)
    | raise (name ++ ": not found")
  match ← openScript path with
  | .error e => raise (openFailure false path e)
  | .ok (number, h) => return (number, path, readable (← readAll h))

/-- Show a command that is about to be run, if the process says so, by `xtrace`. -/
def trace (front : Octets) (target : Option Nat) (ws : List Octets) : Run Unit := do
  if let some h := target then
    let _ ← writeTo h (front ++ " ".intercalate ws ++ "\n") boundless

mutual

/-- Expand the parts of a word, by `expandPart`. -/
def expand (n : Nat) (launch : Launch) (shape : Shape) (parts : List Part) : Run (List Piece) :=
  match n with
  | 0 => tooDeep
  | n + 1 => return (← parts.mapM (expandPart n launch shape)).flatten

/-- Expand a part of a word. -/
def expandPart (n : Nat) (launch : Launch) (shape : Shape) (part : Part) : Run (List Piece) :=
  match n with
  | 0 => tooDeep
  | n + 1 => do
    match part with
    | .text s true => return [.text s true]
    | .text s false => return if shape.loose then Piece.looseText s else [.text s false]
    | .mark => return [.mark]
    | .output quoted body => return Piece.expanded quoted shape.split (← capture n launch body)
    | .arithmetic quoted expression =>
      let text := Piece.joined (← expand n launch {} expression)
      let p ← get
      let (v, assigned) := (Arithmetic.read text).eval (fun name => (p.value? name).getD "") []
      for (name, value) in assigned.reverse do assign name value
      match v with
      | .error .tooGreat => throw (.ended (.killed Signal.noQuotient))
      | .error m => raise (m.message text)
      | .ok v => return Piece.expanded quoted shape.split (toString v)
    | .parameter name quoted operation =>
      let p ← get
      let texts? := valueOf? p name quoted shape
      let pieces := textPieces p name quoted shape.split
      -- With a colon in front of the operation, an empty value counts as none.
      let isSet := fun empty : Bool => texts?.any fun ts => !(empty && ts.all (· == "") &&
        ts.length ≤ 1)
      let word := fun (ws : List Part) => do
        expand n launch { shape with loose := shape.split && !quoted }
          (tildes (← get) false true ws)
      match operation with
      | .value => return pieces (← value name quoted shape)
      | .length => return pieces [toString (String.join (← value name quoted {})).length]
      | .otherwise empty ws => if isSet empty then return pieces (texts?.getD []) else word ws
      | .whenSet empty ws =>
        if isSet empty then word ws else return Piece.expanded quoted shape.split ""
      | .assign empty ws =>
        if isSet empty then return pieces (texts?.getD [])
        else
          let value := Piece.joined (← word ws)
          if !isName name then raise (name ++ ": bad variable name")
          assign name value
          return Piece.expanded quoted shape.split value
      | .demand empty ws =>
        if isSet empty then return pieces (texts?.getD [])
        else
          let text := Piece.joined (← word ws)
          let text := if ws.isEmpty then
              "parameter not set" ++ (if empty then " or null" else "")
            else text
          raise (name ++ ": " ++ text)
      | .trim atEnd longest pattern =>
        let texts ← value name quoted shape
        let ps ← expand n launch {} (tildes (← get) false true pattern)
        return pieces
          (Pattern.trim (Pattern.ofMarked (Piece.marked ps)) atEnd longest quoted texts)
      | .bad => raise "Bad substitution"

/-- What a command prints, without the line ends after it, for `$(…)`. -/
def capture (n : Nat) (launch : Launch) (body : Command) : Run Octets :=
  match n with
  | 0 => tooDeep
  | n + 1 => do
    match body with
    | .sequence [] => return ""
    | _ =>
      demandPipe 0
      let p := (← get).claim.2
      let (source, target, world) := p.world.makePipe ""
      set { p with world }
      let number ← fork n launch (·.assign 1 target) id (eval n launch { last := true } body)
      let at_ := ((← get).vacant? 0).getD 0
      withKept (·.assign at_ source)
      let text ← readAll source
      withKept (·.close at_)
      let ending ← awaitAll [number]
      modify fun p => { p with answered := some (statusOf ending) }
      let cs := text.toList.filter (· ≠ '\x00')
      return String.ofList (cs.reverse.dropWhile (· = '\n')).reverse

/-- Do something in a process of its own, whose number comes out, with other open files and in
    another state: a `childOf` this one. -/
def fork (n : Nat) (launch : Launch) (plug : Descriptors → Descriptors)
    (adapt : Process → Process) (r : Run Unit) : Run Nat :=
  match n with
  | 0 => tooDeep
  | n + 1 => do
    let number ← enlist plug
    let child := adapt (childOf (← get) number)
    let life : Run Ending := do conclude n launch (← attempt r)
    begin_ number fun world => (life { child with world }).task
    return number

/-- How a process ends after what it has done. -/
def conclude (n : Nat) (launch : Launch) (result : Except Jump Unit) : Run Ending :=
  match n with
  | 0 => return .killed 11
  | n + 1 => do
    match result with
    | .error (.ended e) => return e
    | _ =>
      let p ← get
      let plain := Ending.exited (p.status % 256)
      match p.trap? 0 with
      | none => return plain
      | some action =>
        set { p with
          traps := p.traps.filter (·.1 != 0), loops := 0, calls := 0
          statusBefore := some p.status }
        match ← attempt (evalText n launch {} action) with
        | .error (.ended e) => return e
        | .error .leaving | .error .failed => return .exited ((← get).status % 256)
        | _ => return plain

/-- The fields of a word: `expand`, `fields` and `Glob.paths`. -/
def expandFields (n : Nat) (launch : Launch) (word : List Part) : Run (List Octets) :=
  match n with
  | 0 => tooDeep
  | n + 1 => do
    let ps ← expand n launch { split := true } (tildes (← get) false true word)
    let p ← get
    return (fields p.separators ps).flatMap fun field =>
      match (if p.has "noglob" then [] else Glob.paths p.view p.directory field) with
      | [] => [field.text]
      | paths => paths

/-- The text of a word, of which no fields are made: `Piece.joined`. -/
def expandText (n : Nat) (launch : Launch) (assigned : Bool) (word : List Part) : Run Octets :=
  match n with
  | 0 => tooDeep
  | n + 1 => do
    let p ← get
    return Piece.joined (← expand n launch {} (tildes p assigned true word))

/-- The fields of the words of a command.  Words that assign are not cut after a command that is
    among `declaring`. -/
def expandWords (n : Nat) (launch : Launch) (words : List (List Part)) : Run (List Octets) :=
  match n with
  | 0 => tooDeep
  | n + 1 =>
    words.foldlM (fun before w => do
      let name := (before.dropWhile (· == "command")).headD ""
      match (if name ∈ declaring then assignment? w else none) with
      | some (name, value) =>
        return before ++ [name ++ "=" ++ (← expandText n launch true value)]
      | none => return before ++ (← expandFields n launch w)) []

/-- Expand the words of redirections, each to a `Redirection`. -/
def expandRedirects (n : Nat) (launch : Launch) (rs : List Redirect) : Run (List Redirection) :=
  match n with
  | 0 => tooDeep
  | n + 1 =>
    rs.mapM fun r => do
      match r with
      | .file fd kind word =>
        let text ← expandText n launch false word
        let isNumber := match text.toList with
          | [c] => c.isDigit || c = '-'
          | _ => false
        if kind = .duplicate && !isNumber then
          modify fun p => { p with line := p.lastLine }
          raise "Syntax error: Bad fd number"
        return .file fd kind text
      | .document fd number => return .document fd number

/-- Carry out redirections in order, with `redirect`, up to the first that fails. -/
def redirectAll (n : Nat) (launch : Launch) (keeps : Bool) (rs : List Redirection) : Run Unit :=
  match n with
  | 0 => tooDeep
  | n + 1 =>
    rs.forM fun r => do
      match r with
      | .file fd kind word => redirect keeps fd kind word
      | .document fd number =>
        let doc := (← get).documents.getD number []
        feed keeps fd (Piece.joined (← expand n launch {} doc))

/-- Carry out assignments, which come out as words for `trace`. -/
def assignAll (n : Nat) (launch : Launch) (hidden exported : Bool)
    (values : List (Octets × List Part)) : Run (List Octets) :=
  match n with
  | 0 => tooDeep
  | n + 1 =>
    values.mapM fun (name, word) => do
      let value ← expandText n launch true word
      if hidden then hide name
      assign name value
      if hidden || exported then export_ name
      return variableText name value

/-- Carry out a command by `evalCommand`, and then what signals ask for, by `poll`. -/
def eval (n : Nat) (launch : Launch) (mode : Mode) (c : Command) : Run Unit :=
  match n with
  | 0 => tooDeep
  | n + 1 => do
    if (← get).has "noexec" then return
    evalCommand n launch mode c
    poll n launch
    let checked := match c with
      | .simple .. | .pipeline .. | .subshell .. => true
      | _ => false
    let p ← get
    if checked && p.has "errexit" && !mode.tested && p.status ≠ 0 then throw .leaving

/-- Deal with the signals that the process has been sent, first with those that end it. -/
def poll (n : Nat) (launch : Launch) : Run Unit :=
  match n with
  | 0 => tooDeep
  | n + 1 => do
    let p ← get
    if ((p.world.peer? p.number).any (·.stopped)) then pause fun _ => true
    perish
    let p ← get
    let (signals, world) := p.world.receive p.number
    if signals ≠ [] then
      set { p with world }
      let trapped := (List.range (Signal.highest + 1)).filter fun s =>
        signals.contains s && p.isTrapped s
      let status := p.statusBefore.getD p.status
      modify fun q => { q with statusBefore := some status }
      let result ← attempt (obey n launch status trapped)
      modify fun q => { q with statusBefore := p.statusBefore }
      resume result

/-- Carry out what is to be done about signals, after which the status is what it was before.  If
    the commands around are left with it, the other signals stay for later. -/
def obey (n : Nat) (launch : Launch) (status : Nat) (signals : List Nat) : Run Unit :=
  match n, signals with
  | 0, _ => tooDeep
  | _, [] => return ()
  | n + 1, signal :: rest => do
    match ← attempt (evalText n launch {} (((← get).action? signal).getD "")) with
    | .ok () =>
      done status
      obey n launch status rest
    | .error j =>
      if j matches .returning _ | .breaking _ | .continuing _ then
        modify fun p => { p with
          status := if j matches .returning true then p.status else status
          world := rest.foldl (fun w s => (w.send p.number s).toOption.getD w) p.world }
      throw j

/-- Carry out a command, by its constructor. -/
def evalCommand (n : Nat) (launch : Launch) (mode : Mode) (c : Command) : Run Unit :=
  match n with
  | 0 => tooDeep
  | n + 1 => do
    let inner : Mode := { tested := mode.tested }
    match c with
    | .simple line values words rs =>
      modify fun p => { p with line, answered := none }
      evalSimple n launch mode values words rs
      reap
    | .pipeline cs =>
      modify fun p => p.claim.2
      done (statusOf (← awaitAll (← evalPipeline n launch mode false id none cs)))
    | .background (.pipeline cs) =>
      let (place, p) := (← get).claim
      let (h, world) := p.world.hold { channel := .device .null, readable := true }
      set { p with world }
      let numbers ← evalPipeline n launch mode true (·.assign 0 h) none cs
      let number := numbers.getLastD 0
      modify fun p => { p with
        jobs := { number, place, front := numbers.dropLast.map (·, none) } :: p.jobs
        lastJob := some number, status := 0 }
    | .background c =>
      let (c, rs) ← match c with
        | .redirected line c rs => do
          modify fun p => { p with line }
          pure (c, ← expandRedirects n launch rs)
        | c => pure (c, [])
      let (place, p) := (← get).claim
      let (h, world) := p.world.hold { channel := .device .null, readable := true }
      set { p with world }
      let body : Run Unit := do
        poll n launch
        redirectAll n launch false rs
        eval n launch { last := true } c
      -- The process is cut off from the terminal that its parent goes on to use.
      let number ← fork n launch (·.assign 0 h) Process.deafen body
      modify fun p => { p with
        jobs := { number, place } :: p.jobs, lastJob := some number, status := 0 }
    | .negate c =>
      eval n launch { tested := true } c
      modify fun p => { p with status := if p.status = 0 then 1 else 0 }
    | .both a b =>
      eval n launch { tested := true } a
      if (← get).status = 0 then eval n launch mode b
    | .either a b =>
      eval n launch { tested := true } a
      if (← get).status ≠ 0 then eval n launch mode b
    | .sequence cs =>
      cs.dropLast.forM (eval n launch inner)
      cs.getLast?.forM (eval n launch mode)
    | .subshell line c rs =>
      modify fun p => { p with line }
      let rs ← expandRedirects n launch rs
      let body : Run Unit := do
        redirectAll n launch false rs
        eval n launch { mode with last := true } c
        throw .leaving
      if mode.last && !hasTraps (← get) then
        modify fun p => { p with lastLine := p.scriptLine }
        body
      else
        modify fun p => p.claim.2
        let number ← fork n launch id id body
        done (statusOf (← awaitAll [number]))
    | .branch test yes no =>
      eval n launch { tested := true } test
      if (← get).status = 0 then eval n launch mode yes
      else match no with
        | some no => eval n launch mode no
        | none => done 0
    | .loop expected test body =>
      let turn := fun (status : Nat) => do
        countRound
        match ← round (eval n launch { tested := true } test) with
        | .error more => return (status, more)
        | .ok () =>
          if ((← get).status == 0) != expected then return (status, false)
          let more := match ← round (eval n launch inner body) with
            | .error more => more
            | .ok () => true
          return ((← get).status, more)
      done (← looping (repeated turn boundless 0))
    | .each line name words body =>
      modify fun p => { p with line }
      let items ← expandWords n launch words
      if items.isEmpty then done 0
      looping (forEach (fun item => do
        assign name item
        match ← round (eval n launch inner body) with
        | .error more => return more
        | .ok () => return true) items)
    | .choice line subject cases =>
      modify fun p => { p with line }
      let text ← expandText n launch false subject
      evalCases n launch mode text cases
    | .define name body =>
      modify fun p => { p with
        functions := (name, body) :: p.functions.filter (·.1 != name)
        tracked := (p.untrack name).tracked, status := 0 }
    | .redirected line c rs =>
      modify fun p => { p with line }
      let rs ← expandRedirects n launch rs
      match ← redirecting (redirectAll n launch true rs) with
      | .error .failed =>
        done 2
        if (← get).has "errexit" && !mode.tested then throw .leaving
      | .error j => throw j
      | .ok former => redirected former (eval n launch inner c)

/-- Let the commands of a pipeline begin, of which the next reads from `source`, and has its open
    files changed by `input` otherwise: the numbers of their processes. -/
def evalPipeline (n : Nat) (launch : Launch) (mode : Mode) (inBackground : Bool)
    (input : Descriptors → Descriptors) (source : Option Nat) (cs : List Command) :
    Run (List Nat) :=
  match n with
  | 0 => tooDeep
  | n + 1 =>
    match cs with
    | [] => return []
    | c :: rest => do
      prepare c
      if !rest.isEmpty then demandPipe source.toList.length
      let p ← get
      let (next, target, world) := p.world.makePipe ""
      set { p with world }
      let plug := fun (ds : Descriptors) =>
        let ds := match source with
          | some h => ds.assign 0 h
          | none => input ds
        if rest.isEmpty then ds else ds.assign 1 target
      let body := do
        if inBackground then poll n launch
        eval n launch { mode with last := true } c
      let number ← fork n launch plug (if inBackground then Process.deafen else id) body
      return number :: (← evalPipeline n launch mode inBackground input (some next) rest)

/-- Carry out the first case that has a pattern which matches, by `Pattern.accepts`. -/
def evalCases (n : Nat) (launch : Launch) (mode : Mode) (text : Octets)
    (cases : List (List (List Part) × Command)) : Run Unit :=
  match n with
  | 0 => tooDeep
  | n + 1 => do
    let matched ← cases.findM? fun (patterns, _) =>
      patterns.anyM fun word => do
        let ps ← expand n launch {} (tildes (← get) false true word)
        return Pattern.accepts (Pattern.ofMarked (Piece.marked ps)) text.toList
    match matched with
    | none | some (_, .sequence []) => done 0
    | some (_, body) => eval n launch mode body

/-- Carry out a simple command: expand its words, redirect, assign and run what its name means. -/
def evalSimple (n : Nat) (launch : Launch) (mode : Mode) (values : List (Octets × List Part))
    (words : List (List Part)) (rs : List Redirect) : Run Unit :=
  match n with
  | 0 => tooDeep
  | n + 1 => do
    let found ← expandWords n launch words
    let expanded ← expandRedirects n launch rs
    let p ← get
    let (ws, manner) := unwrap p found.length {} found
    let reveal := fun (former : List (Nat × Option Nat)) (values : List Octets) => do
      if (← get).has "xtrace" then
        let front ← tracePrompt n launch
        let p ← get
        -- It is shown where reports went before the redirections, if they went anywhere.
        let before := ((former.lookup 2).bind id).bind p.self.kept.handle?
        trace front (before.or (p.descriptors.handle? 2)) (values ++ found)
    match ws with
    | [] =>
      match ← redirecting (redirectAll n launch true expanded) with
      | .error .failed => done 2
      | .error j => throw j
      | .ok former =>
        redirected former do
          reveal former (← assignAll n launch false false values)
        -- The status is that of the last command that was run for what it prints.
        modify fun p => { p with status := p.answered.getD 0 }
    | name :: args =>
      let kind := meaning p manner.plain name
      let special := match kind with
        | .special => !manner.plain
        | _ => false
      let isExec := match kind with
        | .special => name = "exec"
        | _ => false
      match ← redirecting (redirectAll n launch true expanded) with
      | .error .failed =>
        done 2
        if special then throw .failed
      | .error j => throw j
      | .ok former =>
        let run : Run Unit := do
          reveal former (← assignAll n launch (!special) (isExec && !args.isEmpty) values)
          match kind with
          | .function f => call n launch { tested := mode.tested } f args
          | .program => execute launch mode manner.standard name args
          | _ =>
            let act := perform name special
              (evalBuiltin n launch { tested := mode.tested } name args)
            if name = "return" then heed mode act else act
        let local_ := if special then run else withScope run
        if isExec then
          local_
          forget former
        else redirected former local_

/-- What is shown in front of the commands that are about to be run: the value of `PS4`. -/
def tracePrompt (n : Nat) (launch : Launch) : Run Octets :=
  match n with
  | 0 => tooDeep
  | n + 1 => do
    let p ← get
    let text := (p.value? "PS4").getD "+ "
    match textParts text p.documents with
    | .error _ => return text
    | .ok (parts, documents) =>
      set { p with documents }
      return Piece.joined (← expand n launch {} parts)

/-- Carry out a function, with arguments and a `Scope` of its own. -/
def call (n : Nat) (launch : Launch) (mode : Mode) (body : Command) (args : List Octets) :
    Run Unit :=
  match n with
  | 0 => tooDeep
  | n + 1 => do
    let before ← get
    if exceedsStack n before then tooDeep
    if before.calls ≥ callLimit then
      raise ("Maximum function recursion depth (" ++ toString callLimit ++ ") reached")
    set { before with
      arguments := args, loops := 0, optionIndex := 1, optionPlace := none
      calls := before.calls + 1 }
    let result ← attempt (eval n launch mode body)
    modify fun p => { p with
      arguments := before.arguments, loops := before.loops
      optionIndex := before.optionIndex, optionPlace := before.optionPlace, calls := before.calls }
    match result with
    | .error (.returning _) => return ()
    | result => resume result

/-- Carry out a command of the shell itself, by `Builtin.act?` if it runs no others. -/
def evalBuiltin (n : Nat) (launch : Launch) (mode : Mode) (name : Octets) (args : List Octets) :
    Run Unit :=
  match n with
  | 0 => tooDeep
  | n + 1 => do
    match name with
    | "eval" => evalText n launch mode (" ".intercalate args)
    | "exec" => replace launch args
    | "." =>
      let (_, args) ← Builtin.options [] [] args.length args
      match args with
      | [] => done 0
      | file :: _ =>
        let (number, path, text) ← sourced file
        modify fun p => { p with command := some path }
        let result ← attempt (evalText n launch {} text)
        withScripts (·.close number)
        match result with
        | .error (.returning _) => return ()
        | result => resume result
    | _ => (Builtin.act? name args).getD (done 0)

/-- Carry out a text, line by line.  With `mode.last` that holds for a command with which the text
    ends. -/
def evalText (n : Nat) (launch : Launch) (mode : Mode) (text : Octets) : Run Unit :=
  match n with
  | 0 => tooDeep
  | n + 1 => do
    if exceedsStack n (← get) then tooDeep
    let step := fun (state : Unread × Nat) => do
      let (unread, status) := state
      let p ← get
      match Line.next (p.update unread) with
      | .error e =>
        set { p with line := e.line }
        raise ("Syntax error: " ++ e.mistake.message)
      | .ok (.ended, unread) => return ((unread, status), false)
      | .ok (.commands c last, unread) =>
        set { p with documents := unread.documents, lastLine := unread.line }
        match c with
        | .sequence [] => return ((unread, status), true)
        | c =>
          eval n launch { mode with last := mode.last && last } c
          return ((unread, (← get).status), true)
    let (_, status) ← repeated step (text.length + 2) ({ rest := text.toList }, 0)
    done status

end

end Run

end LineShell.Sh
