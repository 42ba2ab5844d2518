import LineShell.Text.Utf8

/-! # Octet text

The machine knows bytes only.  An octet text is a text whose characters are all below 256, and each
of them stands for one byte; text in ASCII is its own octet text.  Names of files, their contents,
and the words and variables of processes are octet texts.

* `ofText`, `toText`   a text as octets, and what octets hold of a text
* `slice`              octets from a place on, found at once in ASCII -/

namespace LineShell

/-- A text whose characters stand for bytes: those from `U+0000` to `U+00FF`, which are the
    octets. -/
abbrev Octets := String

namespace Octets

/-- The octet text of some bytes. -/
def ofBytes (bytes : List UInt8) : Octets := String.ofList (bytes.map fun b => Char.ofNat b.toNat)

/-- The bytes that an octet text stands for. -/
def bytes (s : Octets) : List UInt8 := s.toList.map fun c => UInt8.ofNat c.toNat

/-- The octets of a text, which are the bytes of its characters in UTF-8. -/
def ofText (s : String) : Octets := ofBytes (s.toList.flatMap String.utf8EncodeChar)

/-- The text that octets hold, as `Text.decode` reads it; pieces that are no text are replaced. -/
def toText (s : Octets) : String := String.ofList (Text.decode s.bytes)

/-- Do the octets hold a text, so that `ofText` gives them back? -/
def isText (s : Octets) : Bool := ofText (toText s) == s

theorem ofText_nil : ofText "" = "" := rfl

/-! ### Parts -/

/-- At most `count` octets, from a place on.  In a text in ASCII the place is known at once; in
    another one it is counted from the start. -/
def slice (s : Octets) (place count : Nat) : Octets :=
  if s.length = s.utf8ByteSize then String.Pos.Raw.extract s ⟨place⟩ ⟨place + count⟩
  else String.ofList ((s.toList.drop place).take count)

/-- The first `count` octets. -/
def front (s : Octets) (count : Nat) : Octets := s.slice 0 count

/-- What is left without the first `count` octets. -/
def rest (s : Octets) (count : Nat) : Octets := s.slice count s.length

/-- At most `count` octets, from a place on, one by one. -/
def part (s : Octets) (place count : Nat) : List Char := (s.slice place count).toList

end Octets

end LineShell
