import LineShell.Proofs.Command.Session
import LineShell.Proofs.Shell.Turn

/-! # Sessions that a shell gets into

What turns of the standard table make of the session, and the sessions that they lead to.

* `run_session`, `execute_session`    the session that a turn leaves, on any console
* `Session.Reachable.knowsBuiltins`   no turn changes what the builtins are -/

namespace LineShell

namespace Shell

variable {σ : Type} [Console σ]

/-- To pass on what has been written leaves the session alone, whether that works or not. -/
theorem conclude_session (turn : Except Fault Status × Shell σ) :
    (conclude turn).2.scene.session = turn.2.scene.session := by
  obtain ⟨f | status, sh⟩ := turn
  · rfl
  · rw [conclude]
    rcases Console.flush sh.scene.stage with ⟨f | ⟨⟩, stage⟩ <;> rfl

variable [Machine σ]

/-- The session that `run` leaves is the one that `Table.standardSession` gives. -/
theorem run_session (name : String) (words : List String) (sh : Shell σ) :
    (run Table.standard name words sh).2.scene.session =
      Table.standardSession sh.scene.session sh.scene.stage name words :=
  Table.standard_session name words sh.scene

/-- The session that a turn leaves: only a line that runs a command does something to it, and that
    is what `Table.standardSession` gives. -/
theorem execute_session (line : String) (sh : Shell σ) :
    (execute Table.standard line sh).2.scene.session =
      match Words.words? line with
      | .ok (name :: operands) =>
        Table.standardSession sh.scene.session
          (sh.note (.words line (name :: operands))).scene.stage name operands
      | _ => sh.scene.session := by
  rw [execute_eq, conclude_session, obey]
  rcases Words.words? line with e | words
  · rfl
  · cases words with
    | nil => rfl
    | cons name operands => exact run_session name operands _

end Shell

/-- The sessions that a shell with `Table.standard` gets into, on whatever stages. -/
inductive Session.Reachable : Session → Prop
  | start {σ : Type} [Console σ] [Machine σ] (session : Session) (stage : σ) :
      Reachable (Shell.start Table.standard session stage).scene.session
  | execute {σ : Type} [Console σ] [Machine σ] (line : String) (sh : Shell σ)
      (before : Reachable sh.scene.session) :
      Reachable (Shell.execute Table.standard line sh).2.scene.session
  | run {σ : Type} [Console σ] [Machine σ] (name : String) (words : List String) (sh : Shell σ)
      (before : Reachable sh.scene.session) :
      Reachable (Shell.run Table.standard name words sh).2.scene.session

namespace Session

/-! ### Runs of the loop -/

section Loop

variable {σ ρ : Type} [Console σ] [Machine σ] [LineSource ρ σ]

/-- A round of the loop is a turn, if it is anything at all. -/
theorem Reachable.round (prompt : String) (source : ρ) {sh : Shell σ}
    (h : sh.scene.session.Reachable) :
    (sh.round Table.standard prompt source).2.2.scene.session.Reachable := by
  unfold Shell.round
  -- Without a line there is no turn, and the session stays.
  rcases LineSource.read prompt source sh.scene.stage with ⟨f | ⟨⟩ | line, source', stage⟩
  · exact h
  · exact h
  · have hturn := Reachable.execute line (sh.withStage stage) h
    dsimp only
    generalize Shell.execute Table.standard line (sh.withStage stage) = turn at hturn ⊢
    obtain ⟨f | status, sh'⟩ := turn
    · exact hturn
    · dsimp only
      -- To note an exit is no turn.
      split <;> exact hturn

/-- The loop gets into no other sessions than its rounds do. -/
theorem Reachable.loop (prompt : String) (source : ρ) {sh : Shell σ}
    (h : sh.scene.session.Reachable) :
    (sh.loop Table.standard prompt source).2.2.scene.session.Reachable := by
  fun_induction Shell.loop Table.standard prompt source sh with
  | case1 source sh result source' sh' hround =>
    have hlast := h.round prompt source
    rwa [hround] at hlast
  | case2 source sh source' sh' hround ih =>
    have hnext := h.round prompt source
    rw [hround] at hnext
    exact ih hnext

/-- Whole runs of the shell get into no other sessions. -/
theorem Reachable.repl (prompt : String) (source : ρ) {sh : Shell σ}
    (h : sh.scene.session.Reachable) :
    (sh.repl Table.standard prompt source).2.2.scene.session.Reachable :=
  Reachable.loop prompt source h

end Loop

/-- In every session that is `Reachable` the names of the builtins are those of `Table.standard`. -/
theorem Reachable.knowsBuiltins {s : Session} (h : s.Reachable) : s.KnowsBuiltins := by
  induction h with
  | start session stage => rfl
  | execute line sh before ih =>
    rw [Shell.execute_session]
    split
    · exact (Table.change_standardSession _ _ _ _).kept.knowsBuiltins ih
    · exact ih
  | run name words sh before ih =>
    rw [Shell.run_session]
    exact (Table.change_standardSession _ _ _ _).kept.knowsBuiltins ih

end Session

end LineShell
