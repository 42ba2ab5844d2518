import LineShell.Program.Launch

/-! # The command line of the shell

Runs the shell over standard input, on a machine in memory that holds the standard files. -/

namespace LineShell.Program

/-- Read all bytes of a stream. -/
partial def readAll (input : IO.FS.Stream) (read : ByteArray) : IO ByteArray := do
  let more ← input.read 4096
  if more.isEmpty then return read else readAll input (read ++ more)

end LineShell.Program

open LineShell

/-- Run the shell with the words of the command line, and give its `Ending` as an exit code. -/
def main (arguments : List String) : IO UInt32 := do
  let bytes ← Program.readAll (← IO.getStdin) .empty
  let environment ← ["PATH", "HOME", "RUST_LOG"].filterMapM fun name => do
    return (← IO.getEnv name).map fun value => Octets.ofText (variableText name value)
  let image := Image.ofTool .lineShell "myshell" (arguments.map Octets.ofText)
  let (ending, world) := Program.runFirst image environment [] FileTree.standard
    (Octets.ofBytes bytes.toList)
  for (outlet, text) in world.printed do
    let bytes := ByteArray.mk text.bytes.toArray
    match outlet with
    | .output => (← IO.getStdout).write bytes
    | .errors => (← IO.getStderr).write bytes
  return match ending with
    | .exited code => code.toUInt32
    | .killed signal => (128 + signal).toUInt32
