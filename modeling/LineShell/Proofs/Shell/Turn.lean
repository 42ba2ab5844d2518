import LineShell.Console.Sink
import LineShell.Machine.Host
import LineShell.Proofs.Words.Spelling
import LineShell.Shell.Repl

/-! # Turns

A turn does what its line asks for, and then passes on what has been written.  `Shell.obey` is the
first of the two and `Shell.conclude` the second, and `Shell.execute` is both in a row.

* `Shell.execute_eq`            a turn is to obey a line and to conclude
* `Shell.execute_typing`        typing words is running the command that they name -/

namespace LineShell

/-- A console that keeps no log: `Console.log` changes nothing. -/
def Console.Silent (ω : Type) [Console ω] : Prop := ∀ (r : Record) (o : ω), Console.log r o = o

/-- A `Sink` only collects the text that is written. -/
theorem Sink.silent : Console.Silent Sink := fun _ _ => rfl

/-- What stands beside a console that keeps no log, as in `ω × η`, keeps none either. -/
theorem Console.Silent.prod {ω η : Type} [Console ω] (h : Console.Silent ω) :
    Console.Silent (ω × η) := fun r o => congrArg (·, o.2) (h r o.1)

namespace Shell

variable {σ : Type} [Console σ]

/-- Do what a line asks for: the first part of `Shell.execute`, before anything is flushed. -/
def obey (table : Table σ) (line : String) (sh : Shell σ) : Except Fault Status × Shell σ :=
  match Words.words? line with
  | .error e =>
    let (made, stage) := Console.putAll [e.message, "\n"] sh.scene.stage
    (made.map fun () => Status.badLine, sh.withStage stage)
  | .ok [] => (.ok sh.lastStatus, sh.note (.words line []))
  | .ok (name :: operands) => run table name operands (sh.note (.words line (name :: operands)))

/-- Pass on what has been written with `Console.flush`, unless a fault has ended the turn.  Only if
    that works the status becomes `lastStatus`. -/
def conclude : Except Fault Status × Shell σ → Except Fault Status × Shell σ
  | (.error f, sh) => (.error f, sh)
  | (.ok status, sh) =>
    match Console.flush sh.scene.stage with
    | (.error f, stage) => (.error f, sh.withStage stage)
    | (.ok (), stage) => (.ok status, { sh.withStage stage with lastStatus := status })

/-- Running a command leaves `lastStatus` alone: only `conclude` sets it. -/
theorem lastStatus_run (table : Table σ) (name : String) (operands : List String) (sh : Shell σ) :
    (run table name operands sh).2.lastStatus = sh.lastStatus := rfl

/-- An act with `Act.flush` behind it, as the end of a turn, is `conclude` of the act. -/
private theorem conclude_run (a : Act σ Status) (sh : Shell σ) :
    (match Act.run (a >>= fun status => do Act.flush; pure status) sh.scene with
      | (.ok status, scene) => (.ok status, { scene, lastStatus := status })
      | (.error f, scene) => (.error f, { sh with scene })) =
      conclude ((Act.run a sh.scene).1, { sh with scene := (Act.run a sh.scene).2 }) := by
  rw [Act.run_bind]
  -- Only an act that went well is followed by the flush.
  rcases Act.run a sh.scene with ⟨f | status, scene⟩
  · rfl
  · simp only [Act.run_bind, Act.run_flush, Act.run_pure, conclude, withStage]
    rcases Console.flush scene.stage with ⟨f | ⟨⟩, stage⟩ <;> rfl

/-- A turn is `obey`, and then `conclude`. -/
theorem execute_eq (table : Table σ) (line : String) (sh : Shell σ) :
    execute table line sh = conclude (obey table line sh) := by
  unfold execute Table.turn obey
  rcases h : Words.words? line with e | words
  · -- an unclosed quote: the message is the only text
    have hturn := conclude_run (do Act.say [e.message, "\n"]; pure Status.badLine) sh
    rw [bind_assoc] at hturn
    refine hturn.trans ?_
    rw [Act.run_bind, Act.run_say]
    dsimp only
    rcases Console.putAll [e.message, "\n"] sh.scene.stage with ⟨f | ⟨⟩, stage⟩ <;> rfl
  · -- in both cases left the note stands in front of the act, hence the `bind_assoc`
    cases words with
    | nil =>
      have hturn := conclude_run (do Act.note (.words line []); pure sh.lastStatus) sh
      rw [bind_assoc] at hturn
      exact hturn
    | cons name operands =>
      have hturn := conclude_run
        (do Act.note (.words line (name :: operands)); table.run name operands) sh
      rw [bind_assoc] at hturn
      exact hturn

/-- A turn of the line of a `Words.Typing` is to `run` the command that it names, and then to
    `conclude`; first of all the words are noted, which a console with `Console.Silent` does not
    see.  Every list with a name in it has such a typing, since no word needs more than a style that
    suits it. -/
theorem execute_typing :
    (∀ (name : String) (operands : List String),
      ∃ t : Words.Typing, t.words = name :: operands) ∧
    ∀ t : Words.Typing, Words.words? t.line = .ok t.words ∧
      ∀ {σ : Type} [Console σ] (table : Table σ) (sh : Shell σ),
        execute table t.line sh =
            conclude (run table t.name t.operands (sh.note (.words t.line t.words))) ∧
          (run table t.name t.operands (sh.note (.words t.line t.words))).2.lastStatus =
            sh.lastStatus ∧
          (Console.Silent σ →
            execute table t.line sh = conclude (run table t.name t.operands sh)) := by
  refine ⟨Words.Typing.exists_words_eq, fun t => ⟨Words.words?_typing t, ?_⟩⟩
  intro σ _ table sh
  have hrun : execute table t.line sh =
      conclude (run table t.name t.operands (sh.note (.words t.line t.words))) := by
    rw [execute_eq, obey, Words.words?_typing]
    rfl
  refine ⟨hrun, lastStatus_run _ _ _ _, fun hsilent => ?_⟩
  have hnote : sh.note (.words t.line t.words) = sh := by
    rw [note, hsilent]
  rw [hrun, hnote]

/-- The word `echo` with every character escaped, a word with a quote between single quotes, and one
    with a quote and a backslash between double quotes. -/
theorem execute_typing_echo :
    let sh : Shell (Sink × Host) :=
      start Table.standard { dir := "/" } ({}, .ofFiles {} fun _ => .ended (.exited 0))
    let t : Words.Typing := {
      before := ⟨['\t'], by simp [Words.Blanks]; decide⟩
      first := ⟨"echo", .escaped, by simp [Words.Style.Suits]⟩
      others := [
        (⟨[' ', '\n'], by simp [Words.Gap, Words.Blanks]; decide⟩,
          ⟨"it's", .single, by simp [Words.Style.Suits]⟩),
        (⟨[' '], by simp [Words.Gap, Words.Blanks]; decide⟩,
          ⟨"\"\\", .double, by simp [Words.Style.Suits]⟩)] }
    t.line = "\t\\e\\c\\h\\o \n'it'\\''s' \"\\\"\\\\\"" ∧
      Words.words? t.line = .ok ["echo", "it's", "\"\\"] ∧ Console.Silent (Sink × Host) ∧
      execute Table.standard t.line sh =
        conclude (run Table.standard "echo" ["it's", "\"\\"] sh) := by
  intro sh t
  have hsilent : Console.Silent (Sink × Host) := Sink.silent.prod
  obtain ⟨hwords, hrun⟩ := execute_typing.2 t
  exact ⟨by decide, hwords, hsilent, (hrun Table.standard sh).2.2 hsilent⟩

end Shell

end LineShell
