import LineShell.Console.Basic
import LineShell.Text.Utf8

/-! # Reading lines

A script is input that is read line by line.  Before each line a prompt is written and flushed.  A
line loses its end, which is a line feed with an optional carriage return before it; the last line
may lack it.  Input can also break off with a fault, and then a line without an end is lost.

* `Script.size_next`   each line makes the script shorter -/

namespace LineShell

/-- Input that is read line by line: its `bytes`, and what stands where they end. -/
structure Script where
  bytes : List UInt8 := []
  /-- The fault that stands where the input would end. -/
  failure : Option Fault := none
  deriving DecidableEq, Repr

namespace Script

/-- The byte that ends a line, `\n`. -/
def lineFeed : UInt8 := 10

/-- A line that had its `lineFeed`, without the carriage return that may precede it. -/
def dropReturn (line : List UInt8) : List UInt8 :=
  if line.getLast? = some 13 then line.dropLast else line

/-- Take the next line; `none` at the end of the input. -/
def next (s : Script) : Except Fault (Option (List UInt8)) × Script :=
  let line := s.bytes.takeWhile (· ≠ lineFeed)
  match s.bytes.dropWhile (· ≠ lineFeed) with
  | _ :: rest => (.ok (some (dropReturn line)), { s with bytes := rest })
  | [] =>
    -- Without a line feed the rest is a line only if the input really ends.
    match s.failure with
    | some f => (.error (.unreadable f), { s with bytes := [] })
    | none => (.ok (if line = [] then none else some line), { s with bytes := [] })

/-- Each line that `next` gives makes the script shorter. -/
theorem size_next {s s' : Script} {line : List UInt8} (h : s.next = (.ok (some line), s')) :
    s'.bytes.length < s.bytes.length := by
  simp only [next] at h
  have hlen : (s.bytes.dropWhile (· ≠ lineFeed)).length ≤ s.bytes.length := by
    rw [← List.length_reverse]
    simpa using (List.dropWhile_sublist (p := (· ≠ lineFeed)) (l := s.bytes)).length_le
  split at h
  · rename_i b rest hr
    obtain ⟨-, rfl⟩ := Prod.mk.inj h
    rw [hr] at hlen
    simp only [List.length_cons] at hlen
    exact Nat.lt_of_succ_le hlen
  · rename_i hr
    split at h
    · simp at h
    · split at h
      · simp at h
      · rename_i hne
        obtain ⟨-, rfl⟩ := Prod.mk.inj h
        cases hb : s.bytes with
        | nil => simp [hb] at hne
        | cons => simp

variable {π : Type} [Console π]

/-- Write the prompt with `Console.display` and take the `next` line.  If the prompt cannot be
    written nothing is taken. -/
def read (prompt : String) (s : Script) (o : π) : Except Fault (Option String) × Script × π :=
  match Console.display prompt o with
  | (.error f, o) => (.error f, s, o)
  | (.ok (), o) =>
    let (line, s) := s.next
    (line.map (·.map fun bytes => String.ofList (Text.decode bytes)), s, o)

/-- Each line that `read` gives makes the script shorter. -/
theorem size_read {prompt line : String} {s s' : Script} {o o' : π}
    (h : read prompt s o = (.ok (some line), s', o')) : s'.bytes.length < s.bytes.length := by
  unfold read at h
  split at h
  · simp at h
  · rcases hn : s.next with ⟨l, s₁⟩
    rw [hn] at h
    obtain ⟨hl, hs⟩ := Prod.mk.inj h
    obtain ⟨rfl, -⟩ := Prod.mk.inj hs
    match l with
    | .error f => simp [Except.map] at hl
    | .ok none => simp [Except.map] at hl
    | .ok (some l) => exact size_next hn

end Script

/-- Where a shell on a stage of type `σ` gets its lines.  A line that is read makes what is left
    smaller, in `size`, so `Shell.loop` comes to an end; a source that never ends is no instance.  A
    run that does come to an end reads finitely many lines, and over a source that gives these and
    no more it is the same run. -/
class LineSource (ρ σ : Type) where
  /-- Show the prompt and ask for a line: `.ok none` where there are no more. -/
  read : String → ρ → σ → Except Fault (Option String) × ρ × σ
  /-- What bounds the lines that are left. -/
  size : ρ → Nat
  size_lt {prompt line : String} {r r' : ρ} {o o' : σ} :
    read prompt r o = (.ok (some line), r', o') → size r' < size r

/-- A script whose prompts are written to the shell's own console. -/
instance {σ : Type} [Console σ] : LineSource Script σ where
  read := Script.read
  size s := s.bytes.length
  size_lt := Script.size_read

/-- A `script` with a console of its own for the `prompts`. -/
structure ScriptApart (π : Type) where
  script : Script
  prompts : π

instance {π σ : Type} [Console π] : LineSource (ScriptApart π) σ where
  read prompt r o :=
    let (line, script, prompts) := Script.read prompt r.script r.prompts
    (line, ⟨script, prompts⟩, o)
  size r := r.script.bytes.length
  size_lt h := by
    simp only [Prod.mk.injEq] at h
    obtain ⟨hl, rfl, -⟩ := h
    exact Script.size_read (Prod.ext hl rfl)

end LineShell
