/-! # Reading bytes as text

Input is read as UTF-8.  Bytes that are no UTF-8 do not stop the reading: every maximal piece of
bytes that could have begun a character but did not complete one becomes one replacement
character `U+FFFD`.

`decodeFrom` reads with an `Awaiting` state, which says what the bytes before have promised;
`decode` starts with nothing promised. -/

namespace LineShell.Text

/-- The character `U+FFFD`, which stands for bytes that are no character. -/
def replacement : Char := '\uFFFD'

/-- A character that has begun: how many bytes are missing after the next one, the range that the
    next one must be in, and the bits read so far. -/
structure Awaiting where
  more : Nat
  low : UInt8
  high : UInt8
  bits : Nat
  deriving DecidableEq, Repr

/-- What a byte says where a character begins. -/
inductive Lead where
  | char (c : Char)
  | opens (a : Awaiting)
  | invalid
  deriving DecidableEq, Repr

/-- Read the first byte of a character.  The narrowed ranges keep out overlong forms, surrogates and
    code points beyond `U+10FFFF`. -/
def lead (b : UInt8) : Lead :=
  let n := b.toNat
  if n < 0x80 then .char (Char.ofNat n)
  else if n < 0xC2 then .invalid
  else if n < 0xE0 then .opens ⟨0, 0x80, 0xBF, n - 0xC0⟩
  else if n = 0xE0 then .opens ⟨1, 0xA0, 0xBF, 0⟩
  else if n = 0xED then .opens ⟨1, 0x80, 0x9F, n - 0xE0⟩
  else if n < 0xF0 then .opens ⟨1, 0x80, 0xBF, n - 0xE0⟩
  else if n = 0xF0 then .opens ⟨2, 0x90, 0xBF, 0⟩
  else if n < 0xF4 then .opens ⟨2, 0x80, 0xBF, n - 0xF0⟩
  else if n = 0xF4 then .opens ⟨2, 0x80, 0x8F, n - 0xF0⟩
  else .invalid

/-- What a `Lead` gives at once, and what it awaits. -/
def Lead.start : Lead → List Char × Option Awaiting
  | .char c => ([c], none)
  | .opens a => ([], some a)
  | .invalid => ([replacement], none)

/-- One byte: the characters it completes, and what is awaited after it.  A byte outside the awaited
    range ends the piece before it and is read as a `lead` byte. -/
def decodeByte (state : Option Awaiting) (b : UInt8) : List Char × Option Awaiting :=
  match state with
  | none => (lead b).start
  | some a =>
    if a.low ≤ b ∧ b ≤ a.high then
      let bits := a.bits * 64 + (b.toNat - 0x80)
      match a.more with
      | 0 => ([Char.ofNat bits], none)
      | more + 1 => ([], some ⟨more, 0x80, 0xBF, bits⟩)
    else
      let (cs, next) := (lead b).start
      (replacement :: cs, next)

/-- Read the rest of some bytes; a character that is cut off by the end gives way to
    `replacement`. -/
def decodeFrom (state : Option Awaiting) : List UInt8 → List Char
  | [] => if state.isSome then [replacement] else []
  | b :: rest =>
    let (cs, next) := decodeByte state b
    cs ++ decodeFrom next rest

/-- The text that some bytes hold, read byte by byte with `decodeByte`. -/
def decode (bytes : List UInt8) : List Char := decodeFrom none bytes

end LineShell.Text
