import LineShell.Console.Basic

/-! # Sinks

A sink is a console that only collects text, and that can be set up to fail: always, once, or
whenever it is flushed.  It keeps no log. -/

namespace LineShell

/-- How a `Sink` behaves. -/
inductive Sink.Mode where
  /-- Nothing fails. -/
  | ok
  /-- Every write fails. -/
  | broken
  /-- The next write fails, and nothing after it. -/
  | once
  /-- Every flush fails. -/
  | noflush
  deriving DecidableEq, Repr

/-- A collector of text, which may be set up to fail. -/
structure Sink where
  mode : Sink.Mode := .ok
  text : String := ""
  deriving DecidableEq, Repr

namespace Sink

/-- Collect a text, unless the `mode` makes this write fail. -/
def write (text : String) (s : Sink) : Except Fault Unit × Sink :=
  match s.mode with
  | .broken => (.error (.stream "sink failed"), s)
  | .once => (.error (.stream "sink failed"), { s with mode := .ok })
  | .ok | .noflush => (.ok (), { s with text := s.text ++ text })

/-- Flush, unless the `mode` makes flushes fail. -/
def flush (s : Sink) : Except Fault Unit × Sink :=
  (if s.mode = .noflush then .error (.stream "flush failed") else .ok (), s)

instance : Console Sink where
  write := write
  flush := flush
  log _ s := s

end Sink

end LineShell
