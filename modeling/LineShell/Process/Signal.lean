/-! # Signals

The signals of the machine by number and name, how the end that they bring is described, and which
of them end a process that has made no arrangements for them. -/

namespace LineShell.Signal

/-- The names of the signals, from number 1 on, without `SIG`. -/
def names : List String :=
  ["HUP", "INT", "QUIT", "ILL", "TRAP", "ABRT", "BUS", "FPE", "KILL", "USR1", "SEGV", "USR2",
    "PIPE", "ALRM", "TERM", "STKFLT", "CHLD", "CONT", "STOP", "TSTP", "TTIN", "TTOU", "URG",
    "XCPU", "XFSZ", "VTALRM", "PROF", "WINCH", "IO", "PWR", "SYS"]

/-- The descriptions of the signals, from number 1 on, as `description` gives them. -/
def descriptions : List String :=
  ["Hangup", "Interrupt", "Quit", "Illegal instruction", "Trace/breakpoint trap", "Aborted",
    "Bus error", "Floating point exception", "Killed", "User defined signal 1",
    "Segmentation fault", "User defined signal 2", "Broken pipe", "Alarm clock", "Terminated",
    "Stack fault", "Child exited", "Continued", "Stopped (signal)", "Stopped",
    "Stopped (tty input)", "Stopped (tty output)", "Urgent I/O condition",
    "CPU time limit exceeded", "File size limit exceeded", "Virtual timer expired",
    "Profiling timer expired", "Window changed", "I/O possible", "Power failure",
    "Bad system call"]

/-- `SIGFPE`, the signal of a process that asks for a quotient that there is not. -/
def noQuotient : Nat := 8

/-- `SIGBUS`, the signal of a process that uses a place in its memory in a way that there is no room
    for. -/
def badAddress : Nat := 7

/-- `SIGKILL`, the signal that ends a process whatever it does. -/
def kill : Nat := 9

/-- `SIGSEGV`, the signal of a process that uses a place outside its memory. -/
def outOfMemory : Nat := 11

/-- `SIGSTOP`, the signal that stops a process until it is told to go on. -/
def stop : Nat := 19

/-- `SIGCONT`, the signal that lets a process go on. -/
def resume : Nat := 18

/-- `SIGPIPE`, the signal of a process that writes into a pipe which nobody reads. -/
def brokenPipe : Nat := 13

/-- `SIGCHLD`, the signal of a process one of whose children has ended. -/
def childEnded : Nat := 17

/-- `SIGXCPU`, the signal of a process that has worked for longer than it may. -/
def outOfTime : Nat := 24

/-- `SIGXFSZ`, the signal of a process that makes a file greater than it may. -/
def fileTooLarge : Nat := 25

/-- The highest number of a signal. -/
def highest : Nat := 64

/-- `SIGRTMIN`, the first number of the signals that have no meaning of their own. -/
def firstFree : Nat := 34

/-- The name of a signal, without `SIG`. -/
def name? (n : Nat) : Option String := if n = 0 then none else names[n - 1]?

/-- How the end that a signal brings is described, as `strsignal` has it. -/
def description (n : Nat) : String :=
  if firstFree ≤ n then "Real-time signal " ++ toString (n - firstFree)
  else if n = 0 then "Unknown signal 0"
  else (descriptions[n - 1]?).getD ("Unknown signal " ++ toString n)

/-- Does the signal end a process, if this makes no arrangements for it? `SIGCHLD`, the signals that
    stop or resume it and a few others do not. -/
def isDeadly (n : Nat) : Bool :=
  1 ≤ n && n ≤ highest && !(n ∈ [17, 18, 19, 20, 21, 22, 23, 28])

/-- May a process make arrangements for the signal? It may not for `kill` and `stop`. -/
def isCatchable (n : Nat) : Bool := n != 9 && n != 19

end LineShell.Signal
