import LineShell.Console.Terminal
import LineShell.Shell.Script

/-! # The input of the program

The program reads its lines from the input that it shares with its children.  It reads a block at a
time, so that a child finds only what lies behind the block that the current line is in. -/

namespace LineShell

/-- What the program keeps of its input. -/
structure Input where
  /-- Read, but not yet taken. -/
  buffer : List UInt8 := []
  /-- How many lines or blocks may still be read: more than anybody writes. -/
  limit : Nat := 0x100000000
  deriving DecidableEq, Repr

namespace Input

/-- How many bytes are read at once. -/
def blockSize : Nat := 8192

/-- Read a block of `blockSize`, once there is something to read.  An input that is not open is at
    its end. -/
def readBlock (t : Terminal) : Except Fault (List UInt8) × Terminal :=
  match t.descriptors.handle? 0 with
  | none => (.ok [], t)
  | some h =>
    let t := if t.world.isDry h then t.waitFor none (!·.isDry h) else t
    if t.killed.isSome || t.pause.isSome then (.ok [], t)
    else match t.world.read h blockSize with
      | .ok (text, world) => (.ok text.bytes, { t with world })
      | .error .badDescriptor => (.ok [], t)
      | .error e => (.error (.system e), t)

/-- Read blocks until one of them ends a line, at most `n` of them, behind those that have been
    read, of which the latest comes first: the bytes, and the fault that stands after them, as a
    `Script`. -/
def fillBehind (blocks : List (List UInt8)) (t : Terminal) : Nat → Script × Terminal
  | 0 => ({ bytes := blocks.reverse.flatten }, t)
  | n + 1 =>
    match readBlock t with
    | (.ok [], t) => ({ bytes := blocks.reverse.flatten }, t)
    | (.ok bytes, t) =>
      if Script.lineFeed ∈ bytes then ({ bytes := (bytes :: blocks).reverse.flatten }, t)
      else fillBehind (bytes :: blocks) t n
    | (.error f, t) => ({ bytes := blocks.reverse.flatten, failure := some f }, t)

/-- Read blocks until there is a whole line, at most `n` of them: the bytes, and the fault that
    stands after them, as a `Script`. -/
def fill (buffer : List UInt8) (t : Terminal) (n : Nat) : Script × Terminal :=
  if Script.lineFeed ∈ buffer then ({ bytes := buffer }, t) else fillBehind [buffer] t n

/-- Write the prompt with `Console.display` and take the next line, as `Script.next` does. -/
def read (prompt : String) (i : Input) (t : Terminal) :
    Except Fault (Option String) × Input × Terminal :=
  match i.limit with
  | 0 => (.ok none, i, t)
  | limit + 1 =>
    match Console.display prompt t with
    | (.error f, t) => (.error f, i, t)
    | (.ok (), t) =>
      let (script, t) := fill i.buffer t limit
      let (line, rest) := script.next
      (line.map (·.map fun bytes => String.ofList (Text.decode bytes)),
        { buffer := rest.bytes, limit }, t)

instance : LineSource Input Terminal where
  read := read
  size i := i.limit
  size_lt {prompt line i i' t t'} h := by
    unfold read at h
    split at h
    · simp at h
    · rename_i limit hl
      split at h
      · simp at h
      · obtain ⟨-, h⟩ := Prod.mk.inj h
        obtain ⟨rfl, -⟩ := Prod.mk.inj h
        simp [hl]

end Input

end LineShell
