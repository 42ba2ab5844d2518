import LineShell.Record

/-! # Consoles

A console is what a shell talks through: it writes text and flushes it, and notes log records.  Each
write and each flush may fail.  The shell is written against the class `Console`, so that what is
proved of it holds whatever fails when. -/

namespace LineShell

/-- A console with states of type `ω`. -/
class Console (ω : Type) where
  /-- Write a text that is not empty. -/
  write : String → ω → Except Fault Unit × ω
  /-- Pass on what has been written. -/
  flush : ω → Except Fault Unit × ω
  /-- Take note of a log record. -/
  log : Record → ω → ω

namespace Console

variable {ω : Type} [Console ω]

/-- Write a text with `Console.write`; an empty one does not reach the console. -/
def put (text : String) (o : ω) : Except Fault Unit × ω :=
  if text = "" then (.ok (), o) else write text o

/-- Write texts in order with `put`, up to the first that fails. -/
def putAll : List String → ω → Except Fault Unit × ω
  | [], o => (.ok (), o)
  | t :: ts, o =>
    match put t o with
    | (.ok (), o) => putAll ts o
    | (.error f, o) => (.error f, o)

/-- Write a text with `put` and pass on what has been written. -/
def display (text : String) (o : ω) : Except Fault Unit × ω :=
  match put text o with
  | (.error f, o) => (.error f, o)
  | (.ok (), o) => flush o

@[simp] theorem put_empty (o : ω) : put "" o = (.ok (), o) := rfl

@[simp] theorem putAll_nil (o : ω) : putAll [] o = (.ok (), o) := rfl

/-- A console may stand beside something else. -/
instance {η : Type} : Console (ω × η) where
  write text p :=
    let (made, o) := write text p.1
    (made, (o, p.2))
  flush p :=
    let (made, o) := flush p.1
    (made, (o, p.2))
  log r p := (log r p.1, p.2)

end Console

end LineShell
