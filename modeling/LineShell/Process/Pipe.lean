import LineShell.Text.Octets

/-! # Pipes

A pipe holds what has been written to it and not been read.  It is kept in two parts, so that
writing does not go through what is there already. -/

namespace LineShell

/-- A pipe: what it holds is `front`, then `back` from its end. -/
structure Pipe where
  /-- What comes out next. -/
  front : List Char := []
  /-- What has been written after that, latest first. -/
  back : List Octets := []
  /-- How many octets it holds. -/
  size : Nat := 0
  /-- How often it has been opened to be read. -/
  readers : Nat := 0
  /-- How often it has been opened to be written. -/
  writers : Nat := 0

namespace Pipe

/-- Bring all that a pipe holds to its `front`. -/
def settle (p : Pipe) : Pipe :=
  match p.back with
  | [] => p
  | back => { p with front := p.front ++ back.reverse.flatMap String.toList, back := [] }

/-- What a pipe holds, in order: its `front` when it is settled. -/
def content (p : Pipe) : List Char := p.settle.front

/-- A pipe that holds a text, all of it in `front`. -/
def ofText (text : Octets) : Pipe := { front := text.toList, size := text.length }

/-- Write to a pipe, behind all that it holds: the text goes to the `back`. -/
def write (p : Pipe) (text : Octets) : Pipe :=
  { p with back := text :: p.back, size := p.size + text.length }

/-- Leave out the next `count` octets of a pipe, which is brought to its `front` by `settle`
    first. -/
def drop (p : Pipe) (count : Nat) : Pipe :=
  let p := p.settle
  { p with front := p.front.drop count, size := p.size - count }

end Pipe

end LineShell
