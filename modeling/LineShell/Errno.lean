/-! # System errors

The ways in which the machine refuses a request, each with its number and text. -/

namespace LineShell

/-- Why the machine refused a request. -/
inductive Errno where
  | notPermitted
  | noEntry
  | noProcess
  | interrupted
  | noDevice
  | argumentsTooLong
  | execFormat
  | badDescriptor
  | noChild
  | outOfMemory
  | permission
  | busy
  | exists_
  | notDirectory
  | isDirectory
  | invalid
  | tooManyFiles
  | textBusy
  | fileTooLarge
  | noSpace
  | brokenPipe
  | nameTooLong
  | notEmpty
  | linkLoop
  deriving DecidableEq, Repr

namespace Errno

/-- The number of the error, as `errno` has it. -/
def number : Errno → Nat
  | notPermitted => 1
  | noEntry => 2
  | noProcess => 3
  | interrupted => 4
  | noDevice => 6
  | argumentsTooLong => 7
  | execFormat => 8
  | badDescriptor => 9
  | noChild => 10
  | outOfMemory => 12
  | permission => 13
  | busy => 16
  | exists_ => 17
  | notDirectory => 20
  | isDirectory => 21
  | invalid => 22
  | tooManyFiles => 24
  | textBusy => 26
  | fileTooLarge => 27
  | noSpace => 28
  | brokenPipe => 32
  | nameTooLong => 36
  | notEmpty => 39
  | linkLoop => 40

/-- The text of the error, as `strerror` gives it. -/
def text : Errno → String
  | notPermitted => "Operation not permitted"
  | noEntry => "No such file or directory"
  | noProcess => "No such process"
  | interrupted => "Interrupted system call"
  | noDevice => "No such device or address"
  | argumentsTooLong => "Argument list too long"
  | execFormat => "Exec format error"
  | badDescriptor => "Bad file descriptor"
  | noChild => "No child processes"
  | outOfMemory => "Cannot allocate memory"
  | permission => "Permission denied"
  | busy => "Device or resource busy"
  | exists_ => "File exists"
  | notDirectory => "Not a directory"
  | isDirectory => "Is a directory"
  | invalid => "Invalid argument"
  | tooManyFiles => "Too many open files"
  | textBusy => "Text file busy"
  | fileTooLarge => "File too large"
  | noSpace => "No space left on device"
  | brokenPipe => "Broken pipe"
  | nameTooLong => "File name too long"
  | notEmpty => "Directory not empty"
  | linkLoop => "Too many levels of symbolic links"

/-- The `text` and the `number`, as the shell reports a system error. -/
def message (e : Errno) : String := e.text ++ " (os error " ++ toString e.number ++ ")"

end Errno

end LineShell
