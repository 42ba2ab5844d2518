import LineShell.Files.Walk

/-! # Loading a program

What the machine runs when it is asked to execute a file.  A tool is run as it is; a file that
begins with `#!` names an interpreter, which is run with the file's path as a word; no other file
can be run, whatever its permission bits say.

The machine looks at the first 256 octets of a file only, filled up with zeros.  A name that could
go on after them names nothing, while the word after it is simply cut off. -/

namespace LineShell

/-- A program that is ready to run: the `tool`, the name it was called by and its words. -/
structure Image where
  tool : Tool
  name : Octets
  arguments : List Octets
  /-- What the machine calls the process that runs it. -/
  title : Octets
  deriving DecidableEq, Repr

namespace Image

/-- The most octets that the machine keeps of the `title` of a process. -/
def titleLimit : Nat := 15

/-- What the machine calls a process that runs the program at `path`. -/
def titleOf (path : Octets) : Octets :=
  String.ofList (((Text.pieces '/' path).getLastD "").toList.take titleLimit)

/-- A tool that is called by the `path` where it is. -/
def ofTool (tool : Tool) (path : Octets) (arguments : List Octets) : Image :=
  { tool, name := path, arguments, title := titleOf path }

/-- How many octets of a file the machine looks at for `#!`. -/
def headSize : Nat := 256

/-- Does the character separate words? A blank and a tab do; a newline is the end of the line. -/
def isGap (c : Char) : Bool := c == ' ' || c == '\t'

/-- Does the character end a name: `isGap`, or is it a NUL? -/
def isEnd (c : Char) : Bool := isGap c || c == '\x00'

/-- The interpreter that a line names, which is given without its end, and the word that may follow
    it.  A NUL ends the name and the word. -/
def ofLine? (line : List Char) : Option (Octets × Option Octets) :=
  let line := (line.reverse.dropWhile isGap).reverse.dropWhile isGap
  if line = [] then none
  else
    let name := line.takeWhile (!isEnd ·)
    let word := match line.drop name.length with
      | [] | '\x00' :: _ => none
      | rest => some (String.ofList ((rest.dropWhile isGap).takeWhile (· ≠ '\x00')))
    some (String.ofList name, word)

/-- The interpreter that the first line of a file names behind `#!`, and the word that may follow
    it. -/
def interpreter? (content : Octets) : Option (Octets × Option Octets) :=
  let head := content.toList.take headSize
  match head ++ List.replicate (headSize - head.length) '\x00' with
  | '#' :: '!' :: rest =>
    let text := rest.takeWhile fun c => c ≠ '\n' && c ≠ '\x00'
    if (rest.drop text.length).head? = some '\n' then ofLine? text
    else
      -- The line has no end: then its name needs one, so that it is known to be complete.
      let name := rest.dropWhile isGap
      if name.any isEnd then
        -- The last octet only serves to tell that the name is complete.
        ofLine? rest.dropLast
      else none
  | _ => none

/-- How many files may name an interpreter on the way to a tool, before it is a `linkLoop`. -/
def interpreterLimit : Nat := 5

/-- The tool or the file at a path, which it has to be allowed to run.  Nobody may be writing it,
    which is `Errno.textBusy`. -/
def runnable (v : View) (dir : Location) (path : Octets) : Except Errno Node := do
  match ← v.open? dir path with
  | (loc, n) =>
    let isProgram := match n with
      | .tool _ | .file .. => n.mode &&& 0o111 != 0
      | _ => false
    if !isProgram then .error .permission
    else if v.isWritten loc then .error .textBusy
    else .ok n

/-- Load the program at `path`, called by `name`, with `more` interpreters still allowed.  An
    interpreter is called by its path. -/
def loadWithin (v : View) (dir : Location) (path name : Octets) (arguments : List Octets)
    (more : Nat) : Except Errno (Tool × Octets × List Octets) := do
  match ← runnable v dir path with
  | .tool tool => .ok (tool, name, arguments)
  | .file _ content =>
    match interpreter? content with
    | none => .error .execFormat
    | some (interpreter, word) =>
      match more with
      | 0 => .error .linkLoop
      | more + 1 => loadWithin v dir interpreter interpreter (word.toList ++ path :: arguments) more
  | _ => .error .permission

/-- The most octets in one word or variable of a program, for `fits`. -/
def wordLimit : Nat := 131071

/-- How many octets the words and the variables of a program may take in all, for `fits`. -/
def spaceLimit : Nat := 2097152

/-- Is there room for the words and the variables of a program? Each has an end, and a place where
    it is found; no more than `wordLimit` and `spaceLimit`. -/
def fits (texts : List Octets) : Bool :=
  texts.all (·.length ≤ wordLimit) && texts.foldl (fun n t => n + t.length + 9) 0 ≤ spaceLimit

/-- Load the program at `path`, called by `name`, for an `environment` that has to fit: `loadWithin`
    the `interpreterLimit`. -/
def load (v : View) (dir : Location) (path name : Octets)
    (arguments environment : List Octets) : Except Errno Image := do
  -- What is there is looked at before the words are.
  let _ ← runnable v dir path
  if !fits (name :: arguments ++ environment) then .error .argumentsTooLong
  else
    let (tool, name, arguments) ← loadWithin v dir path name arguments interpreterLimit
    .ok { tool, name, arguments, title := titleOf path }

end Image

end LineShell
