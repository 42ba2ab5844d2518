import LineShell.Errno

/-! # Limits

How much of the machine a process may use.  A limit has a soft part, which counts, and a hard part,
up to which the soft one may be raised; the hard part itself can only be lowered. -/

namespace LineShell

/-- What a process may use only so much of, as `ulimit` names it. -/
inductive Resource where
  /-- Seconds of work. -/
  | time
  /-- Octets in a file that it writes. -/
  | fileSize
  | data
  | stack
  | core
  | memory
  | locked
  | processes
  /-- Numbers of open files. -/
  | openFiles
  | space
  | locks
  | priority
  deriving DecidableEq, Repr

/-- How much of something may be used: up to the `soft` bound, which may be raised to the `hard`
    one; `none` if there is no bound. -/
structure Limit where
  soft : Option Nat := none
  hard : Option Nat := none
  deriving DecidableEq, Repr

/-- Does the first bound allow more than the second one? -/
def Limit.exceeds : Option Nat → Option Nat → Bool
  | _, none => false
  | none, some _ => true
  | some a, some b => b < a

/-- The limits of a process, by `Resource`. -/
structure Limits where
  /-- The limit on something. -/
  get : Resource → Limit

namespace Limits

/-- The limits that hold if nobody has changed them with `change`. -/
def standard : Limits where
  get
    | .stack => { soft := some 0x800000 }
    | .core => { soft := some 0 }
    | .locked => { soft := some 0x800000, hard := some 0x800000 }
    | .processes => { soft := some 128604, hard := some 128604 }
    | .openFiles => { soft := some 20000, hard := some 20000 }
    | .priority => { soft := some 0, hard := some 0 }
    | .time | .fileSize | .data | .memory | .space | .locks => {}

/-- How much of the resource `r` may be used: its `soft` bound. -/
def soft (ls : Limits) (r : Resource) : Option Nat := (ls.get r).soft

/-- Set the limit on the resource `r`. -/
def set (ls : Limits) (r : Resource) (l : Limit) : Limits where
  get s := if s = r then l else ls.get s

/-- Set the limit on the resource `r` if that is allowed: the `hard` bound is never raised. -/
def change (ls : Limits) (r : Resource) (l : Limit) : Except Errno Limits :=
  if Limit.exceeds l.soft l.hard then .error .invalid
  else if Limit.exceeds l.hard (ls.get r).hard then .error .notPermitted
  else .ok (ls.set r l)

end Limits

end LineShell
