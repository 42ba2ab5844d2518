import LineShell.Sh.Job

/-! # Redirections

A redirection lets a number stand for another open file, for a text, or for nothing.  What the
number stood for before is kept under a number of its own, as long as the redirection holds; if
there is no such number left it is lost. -/

namespace LineShell.Sh.Run

/-- What the standard shell says about a file that it cannot open. -/
def openFailure (making : Bool) (path : Octets) (e : Errno) : Octets :=
  let missing := if making then "Directory nonexistent" else "No such file"
  let reason := match e with
    | .noEntry | .notDirectory => missing
    | e => e.text
  "cannot " ++ (if making then "create " else "open ") ++ path ++ ": " ++ reason

/-- Let the number `fd` stand for an open file; `none` closes it. -/
def point (fd : Nat) (handle : Option Nat) : Run Unit :=
  withDescriptors fun ds => match handle with
    | some h => ds.assign fd h
    | none => ds.close fd

/-- Something is amiss with a number. -/
def raiseNumber {α : Type} (fd : Nat) (e : Errno) : Run α := raise (toString fd ++ ": " ++ e.text)

/-- Take down under which number is kept what a number stood for before, in `former`. -/
def noteFormer (fd : Nat) (before : Option Nat) : Run Unit :=
  modify fun p => { p with former := (fd, before) :: p.former }

/-- Note whether a redirection leaves a number without a file, and come out with whether the one
    before it did.  What becomes of the number by other means is not noted. -/
def noteShut (fd : Nat) (shut : Bool) : Run Bool := do
  let p ← get
  let others := p.shut.erase fd
  set { p with shut := if shut then fd :: others else others }
  return p.shut.contains fd

/-- Keep what a number stands for, if that has not been done yet and redirections have not left it
    without a file, before it is redirected to a file or to none.  From then on it stands for
    nothing, so that a report on what fails next is lost if it is the number of the errors. -/
def keep (fd : Nat) (shuts : Bool) : Run Unit := do
  let isShut ← noteShut fd shuts
  let p ← get
  if (p.former.lookup fd).isNone then
    match if isShut then none else p.descriptors.handle? fd with
    | none => noteFormer fd none
    | some h =>
      point fd none
      let some number := p.vacant? World.firstKept | raiseNumber fd p.refusal
      withKept (·.assign number h)
      noteFormer fd (some number)

/-- May the number stand for anything? `ulimit -n` may forbid it. -/
def isWithin (p : Process) (fd : Nat) : Bool := (p.limits.soft .openFiles).all (fd < ·)

/-- Let a number stand for a file that has just been opened, which has been given the number `at_`
    so far. -/
def move (keeps : Bool) (at_ fd handle : Nat) : Run Unit := do
  if at_ = fd then
    if keeps then
      let _ ← noteShut fd false
      if ((← get).former.lookup fd).isNone then noteFormer fd none
    point fd (some handle)
  else
    point at_ (some handle)
    if keeps then keep fd false
    -- A number that is too high is passed over.
    if isWithin (← get) fd then point fd (some handle)
    point at_ none

/-- Open a file for the number `fd`, with `move`. -/
def openAt (keeps : Bool) (fd : Nat) (path : Octets) (mode : OpenMode) : Run Unit := do
  let at_ := ((← get).vacant? 0).getD fd
  match ← openFile path mode with
  | .ok h => move keeps at_ fd h
  | .error e => raise (openFailure mode.makes path e)

/-- Open a file that a script is read from, which does not keep its first number: the number that it
    gets, and the open file. -/
def openScript (path : Octets) : Run (Except Errno (Nat × Nat)) := do
  let p ← get
  let at_ := (p.vacant? 0).getD 0
  match ← openFile path .read with
  | .error e => return .error e
  | .ok h =>
    let some number := (if at_ < World.firstKept then p.vacant? World.firstKept else some at_)
      | raiseNumber at_ p.refusal
    withScripts (·.assign number h)
    return .ok (number, h)

/-- Redirect one stream, as the kind of a `Redirect` and its word ask. -/
def redirect (keeps : Bool) (fd : Nat) (kind : RedirectKind) (word : Octets) : Run Unit := do
  let p ← get
  match kind with
  | .read => openAt keeps fd word .read
  | .append => openAt keeps fd word .append
  | .update => openAt keeps fd word .update
  | .overwrite => openAt keeps fd word .write
  | .write =>
    if p.has "noclobber" then
      match p.open? word with
      | .ok (_, .file ..) => raise (openFailure true word .exists_)
      | .ok _ => openAt keeps fd word .present
      | .error _ => openAt keeps fd word .create
    else openAt keeps fd word .write
  | .duplicate =>
    match word.toList with
    | ['-'] =>
      if keeps then keep fd true
      point fd none
    | [d] =>
      let other := d.toNat - 48
      if d.isDigit && other ≠ fd then
        if keeps then keep fd false
        match (← get).descriptors.handle? other with
        | some h =>
          if isWithin p fd then point fd (some h) else raiseNumber other .badDescriptor
        | none => raiseNumber other .badDescriptor
    | _ => pure ()

/-- There is a pipe to be made, which needs two numbers, where `others` more are in use: an error if
    there are none. -/
def demandPipe (others : Nat) : Run Unit := do
  if !(← get).hasVacant (others + 2) 0 then raise "Pipe call failed"

/-- Let the number `fd` stand for a text, as `<<` asks. -/
def feed (keeps : Bool) (fd : Nat) (text : Octets) : Run Unit := do
  demandPipe 0
  let p ← get
  let (source, _, world) := p.world.makePipe text
  set { p with world }
  move keeps ((p.vacant? 0).getD fd) fd source

/-- What numbers stood for before redirections is no longer kept. -/
def forget (former : List (Nat × Option Nat)) : Run Unit :=
  withKept fun kept => former.foldl (fun kept (_, before) => before.elim kept kept.close) kept

/-- Undo what redirections have changed.  A number that they have left without a file, and that had
    none before, remains as it is. -/
def restore (former : List (Nat × Option Nat)) : Run Unit := do
  let kept := (← get).self.kept
  forget former
  former.forM fun (fd, before) => do
    let isShut ← noteShut fd before.isNone
    if before.isSome || !isShut then point fd (before.bind kept.handle?)

/-- Carry out redirections, and come out with what they have changed.  If one of them fails those
    before it are undone. -/
def redirecting (redirections : Run Unit) : Run (Except Jump (List (Nat × Option Nat))) := do
  let outer := (← get).former
  modify fun p => { p with former := [] }
  let result ← attempt redirections
  let former := (← get).former
  modify fun p => { p with former := outer }
  match result with
  | .ok () => return .ok former
  | .error j =>
    restore former
    return .error j

/-- Do something while redirections hold, and `restore` what was before. -/
def redirected (former : List (Nat × Option Nat)) (r : Run Unit) : Run Unit := do
  let result ← attempt r
  restore former
  resume result

end LineShell.Sh.Run
