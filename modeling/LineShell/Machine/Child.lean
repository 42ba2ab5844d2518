import LineShell.Machine.Basic

/-! # Preparing a child

What a machine with files does before a child runs: it finds the child's directory and loads its
program.  The program's path counts from the child's directory, not from the shell's. -/

namespace LineShell

/-- What a path leads to, through links, as a process in the directory `dir` sees it. -/
def View.status? (v : View) (dir : Location) (path : Octets) : Option FileStatus :=
  if hasNul path then none
  else match v.open? dir path with
    | .ok (_, n) => some ⟨n == .directory, n.mode⟩
    | .error _ => none

namespace Request

/-- The environment of a child, each variable as a `variableText`. -/
def variableTexts (r : Request) : List Octets :=
  r.environment.map fun (name, value) => Octets.ofText (variableText name value)

/-- The directory of a child that a process in the directory `dir` asks for. -/
def place (r : Request) (v : View) (dir : Location) : Except SpawnError Location :=
  if r.texts.any hasNul then .error .nul
  else match v.open? dir r.directory with
    | .error e => .error (.system e)
    | .ok (there, n) => if n = .directory then .ok there else .error (.system .notDirectory)

/-- The program of a child that is in its directory `there`. -/
def load (r : Request) (v : View) (there : Location) : Except SpawnError Image :=
  match Image.load v there r.program r.program (r.arguments.map Octets.ofText) r.variableTexts with
  | .error e => .error (.system e)
  | .ok image => .ok image

/-- A child that a process asks for: what it is started with, and the world in which it has begun.
    It begins as a likeness of the process, and looks for its directory and its program itself. -/
def begin_ (r : Request) (w : World) (parent : Nat) (self : Peer) :
    Except SpawnError (Start × World) :=
  let (number, w) := w.enlist { self with parent }
  match r.place (w.view number) self.directory with
  | .error e => .error e
  | .ok directory =>
    let w := w.update number ({ · with directory })
    match r.load (w.view number) directory with
    | .error e => .error e
    | .ok image => .ok ({ image, environment := r.variableTexts, directory, number, parent }, w)

end Request

end LineShell
