import LineShell.Process.Limits
import LineShell.Process.Sight
import LineShell.Process.Task

/-! # Starting programs

What a process is started with.  A `Launch` lets a process run that has been started; whatever
starts processes is given one, so that it need not know the programs that there are. -/

namespace LineShell

/-- What a process is started with, beside its open files, which the `World` keeps. -/
structure Start where
  image : Image
  /-- The variables, each as its name, an equals sign and its value. -/
  environment : List Octets := []
  directory : Location := []
  /-- The number of the process, and that of the process which started it. -/
  number : Nat
  parent : Nat
  /-- The signals that the process does not hear. -/
  deaf : List Nat := []
  /-- The permission bits that new files do not get. -/
  mask : Nat := 0o022
  limits : Limits := .standard

/-- How a process that has been started goes on: the `Task` that it is, in the world that there
    is. -/
abbrev Launch := Start → World → Task

/-- A variable of an environment as the machine passes it on: `name=value`. -/
def variableText (name value : Octets) : Octets := name ++ "=" ++ value

/-- The name and the value of a `variableText`: the name ends at the first equals sign. -/
def splitVariable? (text : Octets) : Option (Octets × Octets) :=
  let name := text.toList.takeWhile (· ≠ '=')
  match text.toList.drop name.length with
  | _ :: value => some (String.ofList name, String.ofList value)
  | [] => none

end LineShell
