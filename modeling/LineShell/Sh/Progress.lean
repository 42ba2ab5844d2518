import LineShell.Sh.Arithmetic
import LineShell.Sh.Process

/-! # What a process of the standard shell does

A `Run` is something that a process does: it comes to an answer, or leaves the commands around it by
a `Jump`.  In between it may wait for something, and then other processes go on; so what comes out
at first is only a `Progress`. -/

namespace LineShell.Sh

/-- How a command leaves the commands around it. -/
inductive Jump where
  /-- There was an error, which has been reported. -/
  | failed
  /-- The process ends with its status. -/
  | leaving
  /-- The process is no more. -/
  | ended (e : Ending)
  /-- A function or a script that is read in place is over, with a status that may be `given`. -/
  | returning (given : Bool)
  | breaking (loops : Nat)
  | continuing (loops : Nat)

/-- How far a process has come with something. -/
inductive Progress (α : Type) where
  | done (a : α) (p : Process)
  | leaves (j : Jump) (p : Process)
  /-- It goes on once the world is ready. -/
  | waits (p : Process) (ready : World → Bool) (go : Process → Progress α)
  /-- It has started another process, and goes on. -/
  | starts (p : Process) (number : Nat) (child : World → Task) (go : Process → Progress α)
  /-- Another program has taken its place. -/
  | replaced (t : Task)

/-- Something that a process does: the `Progress` that it makes. -/
def Run (α : Type) : Type := Process → Progress α

namespace Progress

variable {α β : Type}

/-- Go on after an answer or a jump, however long it takes until there is one. -/
def andThen (answer : α → Run β) (jump : Jump → Run β) : Progress α → Progress β
  | done a p => answer a p
  | leaves j p => jump j p
  | waits p ready go => waits p ready fun q => (go q).andThen answer jump
  | starts p number child go => starts p number child fun q => (go q).andThen answer jump
  | replaced t => replaced t

/-- A process that does something and then ends, as others see it: a `Task`.  While it waits it does
    not hold on to the world. -/
def task : Progress Ending → Task
  | done e p | leaves (.ended e) p => .ended e p.world
  | leaves _ p => .ended (.killed Signal.kill) p.world
  | waits p ready go =>
    let asleep := { p with world := .void }
    .waits p.world ready fun world => (go { asleep with world }).task
  | starts p number child go =>
    let asleep := { p with world := .void }
    .starts p.world number child fun world => (go { asleep with world }).task
  | replaced t => t

end Progress

namespace Run

variable {α β : Type}

@[always_inline, inline] def pure (a : α) : Run α := fun p => .done a p

@[always_inline, inline] def bind (r : Run α) (f : α → Run β) : Run β := fun p =>
  match r p with
  | .done a p => f a p
  | .leaves j p => .leaves j p
  | later => later.andThen f fun j p => .leaves j p

instance : Monad Run where
  pure
  bind

instance : MonadStateOf Process Run where
  get p := .done p p
  set p _ := .done () p
  modifyGet f p := let (a, p) := f p; .done a p

instance : MonadExceptOf Jump Run where
  throw j p := .leaves j p
  tryCatch r handle p := (r p).andThen (fun a p => .done a p) handle

/-- Do something and say how it went, with a jump as a value. -/
def attempt (r : Run α) : Run (Except Jump α) := fun p =>
  match r p with
  | .done a p => .done (.ok a) p
  | .leaves j p => .done (.error j) p
  | later => later.andThen (fun a p => .done (.ok a) p) fun j p => .done (.error j) p

/-- Come out with the result of an `attempt`. -/
def resume (result : Except Jump α) : Run α := fun p =>
  match result with
  | .ok a => .done a p
  | .error j => .leaves j p

/-- Do something again and again, at most `n` times, as long as it says so. -/
def repeated (step : α → Run (α × Bool)) : Nat → α → Run α
  | 0, _ => fun p => .leaves (.ended (.killed Signal.kill)) p
  | n + 1, a => fun p =>
    match step a p with
    | .done (a, true) p => repeated step n a p
    | .done (a, false) p => .done a p
    | .leaves j p => .leaves j p
    | later =>
      later.andThen (fun (a, more) p => if more then repeated step n a p else .done a p)
        fun j p => .leaves j p

/-- More than anybody repeats anything, for `repeated`. -/
def boundless : Nat := 0x1000000000000

/-- The commands are nested so deeply that there is no room left for the process to go on: `SIGSEGV`
    ends it. -/
def tooDeep : Run α := throw (.ended (.killed 11))

/-! ### Waiting -/

/-- Let others go on until the world is `ready`. -/
def pause (ready : World → Bool) : Run Unit := fun p => .waits p ready fun p => .done () p

/-- Start another process. -/
def begin_ (number : Nat) (child : World → Task) : Run Unit :=
  fun p => .starts p number child fun p => .done () p

/-- Let another program take the place of the process, as `exec` does. -/
def become (program : World → Task) : Run α := fun p => .replaced (program p.world)

/-- End at a signal that `isFatal`. -/
def perish : Run Unit := do
  let p ← get
  let fatal := p.world.signals.reverse.find? fun (n, s) => n == p.number && p.isFatal s
  if let some (_, signal) := fatal then throw (.ended (.killed signal))

/-- Wait until something holds of the world.  A signal that ends the process does so at once; if it
    is `attentive`, one that it has made arrangements for ends the waiting too. -/
def waitUntil (holds : World → Bool) (attentive : Bool := false) : Run Unit := do
  let p ← get
  if !holds p.world then
    let signals := (List.range (Signal.highest + 1)).filter fun s =>
      p.isFatal s || (attentive && p.isTrapped s)
    let number := p.number
    pause fun w => holds w || w.signals.any fun (n, s) => n == number && signals.contains s
    perish

/-- The latest signal that the process has been sent and that `isTrapped`. -/
def called : Run (Option Nat) := do
  let p ← get
  return (p.world.signals.find? fun (n, s) => n == p.number && p.isTrapped s).map (·.2)

/-- Send a signal to the process itself, which ends if it `isFatal`. -/
def raiseSignal (signal : Nat) : Run Unit := do
  modify fun p => { p with world := (p.world.send p.number signal).toOption.getD p.world }
  perish

/-- How many rounds of loops a process goes through before others have their turn, by
    `countRound`. -/
def roundLimit : Nat := 1000

/-- How often a process has its turn after that many rounds in a second. -/
def spellsPerSecond : Nat := 100

/-- Does another second of work end for the process, of which it may use only so many? -/
def isOverdue (p : Process) (seconds : Option Nat) : Bool :=
  p.spells % spellsPerSecond = 0 && seconds.any fun n => max 1 n * spellsPerSecond ≤ p.spells

/-- Go through a round of a loop.  A process that has worked for too long is told so, and ended
    where that is for good. -/
def countRound : Run Unit := do
  let p ← get
  if p.rounds < roundLimit then set { p with rounds := p.rounds + 1 }
  else
    set { p with rounds := 0, spells := p.spells + 1, world := p.world.pass p.rounds }
    pause fun _ => true
    let p ← get
    let limit := p.limits.get .time
    if isOverdue p limit.hard then raiseSignal Signal.kill
    else if isOverdue p limit.soft then raiseSignal Signal.outOfTime

/-! ### Input and output -/

/-- Change the open files of the process, with `change`. -/
def withDescriptors (change : Descriptors → Descriptors) : Run Unit :=
  modify fun p => { p with world := p.world.withDescriptors p.number change }

/-- Change the open files that the process has `kept` on its own account. -/
def withKept (change : Descriptors → Descriptors) : Run Unit :=
  modify fun p => { p with
    world := p.world.update p.number fun m => { m with kept := change m.kept } }

/-- Change the `scripts` that the process reads. -/
def withScripts (change : Descriptors → Descriptors) : Run Unit :=
  modify fun p => { p with
    world := p.world.update p.number fun m => { m with scripts := change m.scripts } }

/-- Write to an open file; the flag tells whether it was taken.  A pipe that is full is waited for,
    at most `n` times.  The process is ended, unless it has made arrangements for that, where nobody
    reads what it writes, and where a file would get larger than it may. -/
def writeTo (handle : Nat) (text : Octets) : Nat → Run Bool
  | 0 => return false
  | n + 1 => do
    let size := text.length
    waitUntil fun w => 0 < w.room handle size || size = 0
    let p ← get
    let now := p.world.allowance handle (p.world.room handle size) (p.limits.soft .fileSize)
    if now = 0 && 0 < size then
      raiseSignal Signal.fileTooLarge
      return false
    let part := if now < size then String.ofList (text.toList.take now) else text
    match p.world.write handle part with
    | .ok world =>
      set { p with world }
      if now < size then writeTo handle (String.ofList (text.toList.drop now)) n else return true
    | .error .brokenPipe =>
      raiseSignal Signal.brokenPipe
      return false
    | .error _ => return text = ""

/-- Write to the file that the number `fd` stands for, by `writeTo`; the flag tells whether it was
    taken. -/
def write (fd : Nat) (text : Octets) : Run Bool := do
  match (← get).descriptors.handle? fd with
  | none => return text = ""
  | some handle => writeTo handle text boundless

/-- Read at most `count` octets of an open file, and wait if there are none yet. -/
def readFrom (handle count : Nat) : Run Octets := do
  waitUntil (!·.isDry handle)
  let p ← get
  match p.world.read handle count with
  | .ok (text, world) =>
    set { p with world }
    return text
  | .error _ => return ""

/-- Read an open file to its end, with `readFrom`. -/
def readAll (handle : Nat) : Run Octets := do
  let step := fun (texts : List Octets) => do
    let text ← readFrom handle World.pipeCapacity
    return (text :: texts, text ≠ "")
  return String.join (← repeated step boundless []).reverse

/-- Open a file.  A pipe with a name is waited for until its other end is open too, unless a signal
    comes in between that the process has made arrangements for. -/
def openFile (path : Octets) (mode : OpenMode) : Run (Except Errno Nat) := do
  let p ← get
  let some at_ := p.vacant? 0 | return .error .tooManyFiles
  match p.world.openFile p.view p.directory path mode (0o666 &&& (0o777 - p.mask)) with
  | .error e => return .error e
  | .ok (handle, world) =>
    let isMet := world.meeting handle
    set { p with world }
    if isMet world then return .ok handle
    withKept (·.assign at_ handle)
    waitUntil isMet true
    withKept (·.close at_)
    return if isMet (← get).world then .ok handle else .error .interrupted

/-! ### Reports and variables -/

/-- Report an error with the place where it arose: `name: line: text`. -/
def complain (text : Octets) : Run Unit := do
  let p ← get
  let command := match p.command with
    | some c => c ++ ": "
    | none => ""
  let _ ← write 2 (p.name ++ ": " ++ toString p.line ++ ": " ++ command ++ text ++ "\n")

/-- Report an error with `complain` and give up: `Jump.failed`. -/
def raise {α : Type} (text : Octets) : Run α := do
  complain text
  modify fun p => { p with status := 2 }
  throw .failed

/-- Print on the output, once the current command of the shell itself is done: the text is `held` so
    far. -/
def print (text : Octets) : Run Unit := modify fun p => { p with held := p.held ++ text }

/-- Go on with a status. -/
def done (status : Nat) : Run Unit := modify fun p => { p with status }

/-- Give a variable a value, unless it is `readonly`. -/
def assign (name value : Octets) : Run Unit := do
  let p ← get
  let v := p.binding name
  if v.readOnly then raise (name ++ ": is read only")
  let p ← if name = "OPTIND" then
      match Arithmetic.count? value with
      | some n => pure { p with optionIndex := max 1 n, optionPlace := none }
      | none => raise ("Illegal number: " ++ value)
    else if name = "PATH" then pure { p with tracked := [] }
    else pure p
  let exported := v.exported || p.has "allexport"
  set (p.setVariable name { v with value := some value, exported })

/-- Mark a variable for children, as `export` does. -/
def export_ (name : Octets) : Run Unit :=
  modify fun p => p.setVariable name { p.binding name with exported := true }

/-- Leave no value to a variable, which stays marked for children if all are to be marked. -/
def remove (p : Process) (name : Octets) : Process :=
  if p.has "allexport" then p.setVariable name { exported := true }
  else { p with bindings := p.bindings.filter (·.1 != name) }

/-- Take a variable away, unless it is `readonly`. -/
def unset (name : Octets) : Run Unit := do
  let p ← get
  if (p.binding name).readOnly then raise (name ++ ": is read only")
  if name = "OPTIND" then raise "Illegal number: "
  set (remove { p with tracked := if name = "PATH" then [] else p.tracked } name)

/-- Hide something until the current call comes back, in the innermost `Scope`. -/
def hideIn (change : Process → Scope → Scope) : Run Unit :=
  modify fun p => match p.hidden with
    | scope :: outer => { p with hidden := change p scope :: outer }
    | [] => p

/-- Hide a variable until the current call comes back. -/
def hide (name : Octets) : Run Unit :=
  hideIn fun p scope =>
    if scope.bindings.any (·.1 == name) then scope
    else { scope with bindings := (name, p.bindings.lookup name) :: scope.bindings }

/-- Hide the options until the current call comes back, as `local -` does. -/
def hideOptions : Run Unit :=
  hideIn fun p scope => { scope with options := scope.options.or (some p.options) }

/-- What goes with a variable that has come back: the programs that have been found depend on the
    search path, and `getopts` on the word that it has come to. -/
def follow (p : Process) (name : Octets) (old : Option Variable) : Process :=
  match name, old with
  | "PATH", _ => { p with tracked := [] }
  | "OPTIND", some v =>
    let index := (v.value.bind Arithmetic.count?).getD 1
    { p with optionIndex := max 1 index, optionPlace := none }
  | _, _ => p

/-- Let what the innermost call has hidden come back.  A variable that has no `isName` cannot be
    taken away again. -/
def unhide : Run Unit := do
  let p ← get
  if let scope :: outer := p.hidden then
    let q := scope.bindings.foldl (fun p (name, old) => follow (match old with
      | some v => p.setVariable name v
      | none => remove p name) name old) p
    set { q with hidden := outer, options := scope.options.getD q.options }
    if let some (name, _) := scope.bindings.find? (!isName ·.1) then
      raise (name ++ ": bad variable name")

/-- Do something that may hide variables, which come back after it.  If the process is left with it
    they stay hidden. -/
def withScope {α : Type} (r : Run α) : Run α := do
  let depth := (← get).hidden.length
  modify fun p => { p with hidden := {} :: p.hidden }
  let result ← attempt r
  match result with
  | .error .failed | .error .leaving | .error (.ended _) => resume result
  | _ =>
    for _ in List.range ((← get).hidden.length - depth) do unhide
    resume result

end Run

end LineShell.Sh
