import LineShell.Shell.Interpreter
import LineShell.Shell.Script

/-! # The loop of the shell

The shell reads lines and executes them, until a turn asks for the exit or there are no more
lines.  A fault, of the source or of a turn, ends the loop.

* `Shell.size_round`   each round makes what is left to read smaller -/

namespace LineShell.Shell

variable {σ ρ : Type} [Console σ] [LineSource ρ σ]

/-- Go on with the stage in another state. -/
def withStage (sh : Shell σ) (stage : σ) : Shell σ := { sh with scene.stage := stage }

/-- Read a line with `LineSource.read` and `execute` it: how the loop ends, if it does. -/
def round (table : Table σ) (prompt : String) (source : ρ) (sh : Shell σ) :
    Option (Except Fault Status) × ρ × Shell σ :=
  match LineSource.read prompt source sh.scene.stage with
  | (.error f, source, stage) => (some (.error f), source, sh.withStage stage)
  | (.ok none, source, stage) => (some (.ok 0), source, (sh.withStage stage).note .endOfInput)
  | (.ok (some line), source, stage) =>
    match execute table line (sh.withStage stage) with
    | (.error f, sh) => (some (.error f), source, sh)
    | (.ok _, sh) =>
      match sh.scene.session.pendingExit with
      | some status => (some (.ok status), source, sh.note (.exiting status))
      | none => (none, source, sh)

/-- Each round that is not the last one makes the `LineSource.size` of what is left smaller. -/
theorem size_round {table : Table σ} {prompt : String} {source source' : ρ} {sh sh' : Shell σ}
    (h : round table prompt source sh = (none, source', sh')) :
    LineSource.size σ source' < LineSource.size σ source := by
  unfold round at h
  split at h
  · simp at h
  · simp at h
  · rename_i hread
    split at h
    · simp at h
    · split at h
      · simp at h
      · obtain ⟨rfl, -⟩ := Prod.mk.inj (Prod.mk.inj h).2
        exact LineSource.size_lt hread

/-- Read lines and execute them, `round` after `round`. -/
def loop (table : Table σ) (prompt : String) (source : ρ) (sh : Shell σ) :
    Except Fault Status × ρ × Shell σ :=
  match _h : round table prompt source sh with
  | (some result, source, sh) => (result, source, sh)
  | (none, source', sh) => loop table prompt source' sh
termination_by LineSource.size σ source
decreasing_by exact size_round _h

section

variable {table : Table σ} {prompt : String} {source source' : ρ} {sh sh' : Shell σ}

/-- A `round` may be the last. -/
theorem loop_of_round_eq_some {result : Except Fault Status}
    (h : round table prompt source sh = (some result, source', sh')) :
    loop table prompt source sh = (result, source', sh') := by
  unfold loop
  split
  · rename_i heq
    rw [h] at heq
    cases heq
    rfl
  · rename_i heq
    rw [h] at heq
    cases heq

/-- Otherwise the `loop` goes on with what the round has left. -/
theorem loop_of_round_eq_none (h : round table prompt source sh = (none, source', sh')) :
    loop table prompt source sh = loop table prompt source' sh' := by
  conv => lhs; unfold loop
  split
  · rename_i heq
    rw [h] at heq
    cases heq
  · rename_i heq
    rw [h] at heq
    cases heq
    rfl

end

/-- Run the shell over a source of lines: note the start, and then `loop`. -/
def repl (table : Table σ) (prompt : String) (source : ρ) (sh : Shell σ) :
    Except Fault Status × ρ × Shell σ :=
  loop table prompt source (sh.note (.started sh.scene.session.dir))

end LineShell.Shell
