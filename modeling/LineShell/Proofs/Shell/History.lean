import LineShell.Console.Sink
import LineShell.Machine.Catalog
import LineShell.Proofs.Shell.Reachable

/-! # Histories of a shell

A shell with the standard table is called again and again, and between two calls its console may be
exchanged and its machine may change at will.  What one call does to the session is `Change`; what a
whole history keeps follows by induction on the calls.

* `perform_session`, `Step.change`   what one call does to the session
* `Memory.after_concat`              a history goes on with one call more
* `history_keeps_session`            what no history does to the session, and what only `cd` and
                                     `exit` do -/

namespace LineShell.Shell

/-! ### Calls -/

/-- What a shell can be asked for. -/
inductive Call where
  /-- To execute a line. -/
  | execute (line : String)
  /-- To run a command by name. -/
  | run (name : String) (words : List String)

namespace Call

variable {σ : Type} [Console σ]

/-- Do what a call asks for, with the commands of `table`. -/
def perform (table : Table σ) (sh : Shell σ) : Call → Except Fault Status × Shell σ
  | execute line => sh.execute table line
  | run name words => Shell.run table name words sh

/-- The name and the words that a call dispatches, if it dispatches anything. -/
def command? : Call → Option (String × List String)
  | execute line =>
    match Words.words? line with
    | .ok (name :: operands) => some (name, operands)
    | _ => none
  | run name words => some (name, words)

/-- The stage on which a call dispatches its command: `Call.execute` notes the words of its line
    before. -/
def stage (o : σ) : Call → σ
  | execute line =>
    match Words.words? line with
    | .ok words => Console.log (.words line words) o
    | .error _ => o
  | run _ _ => o

variable [Machine σ]

/-- The session that a call leaves: only a command that is dispatched does something to it. -/
theorem perform_session (c : Call) (sh : Shell σ) :
    (c.perform Table.standard sh).2.scene.session =
      match c.command? with
      | some (name, words) =>
        Table.standardSession sh.scene.session (c.stage sh.scene.stage) name words
      | none => sh.scene.session := by
  cases c with
  | run name words => exact run_session name words sh
  | execute line =>
    rw [perform, execute_session, command?, stage]
    rcases Words.words? line with e | words
    · rfl
    · cases words <;> rfl

/-- No call touches the environment or the names of the builtins, as `Session.Kept` says. -/
theorem kept (c : Call) (sh : Shell σ) :
    sh.scene.session.Kept (c.perform Table.standard sh).2.scene.session := by
  rw [perform_session]
  cases c.command? with
  | none => exact .refl _
  | some command => exact (Table.change_standardSession _ _ _ _).kept

end Call

/-! ### Steps and histories -/

/-- What a shell keeps from one call to the next. -/
structure Memory where
  session : Session
  lastStatus : Status
  deriving DecidableEq

/-- What a shell keeps when its stage is taken away. -/
def memory {σ : Type} (sh : Shell σ) : Memory := ⟨sh.scene.session, sh.lastStatus⟩

/-- A `Call` on a stage of its own: whatever console and machine there are at that time. -/
structure Step where
  {σ : Type}
  [console : Console σ]
  [machine : Machine σ]
  stage : σ
  call : Call

attribute [instance] Step.console Step.machine

namespace Step

/-- What is kept behind a step. -/
def after (t : Step) (m : Memory) : Memory :=
  (t.call.perform Table.standard ⟨⟨m.session, t.stage⟩, m.lastStatus⟩).2.memory

/-- The machine on which a step dispatches its command. -/
def place (t : Step) : t.σ := t.call.stage t.stage

variable {t : Step} {m : Memory}

/-- What a step does that dispatches a command is a `Session.Change`. -/
theorem change {name : String} {words : List String} (h : t.call.command? = some (name, words)) :
    m.session.Change t.place name words (t.after m).session := by
  rw [after, memory, Call.perform_session, h]
  exact Table.change_standardSession _ _ _ _

/-- A step without a command leaves the session as it was. -/
theorem session_after_of_none (h : t.call.command? = none) : (t.after m).session = m.session := by
  rw [after, memory, Call.perform_session, h]

/-- Each step dispatches a command or leaves the session as it was: all that a step can do. -/
theorem change_or_eq (t : Step) (m : Memory) :
    (∃ name words, t.call.command? = some (name, words) ∧
      m.session.Change t.place name words (t.after m).session) ∨
    t.call.command? = none ∧ (t.after m).session = m.session := by
  cases h : t.call.command? with
  | none => exact .inr ⟨rfl, session_after_of_none h⟩
  | some command => exact .inl ⟨_, _, rfl, change h⟩

end Step

namespace Memory

/-- What is kept behind a history. -/
def after (history : List Step) (m : Memory) : Memory :=
  history.foldl (fun m t => t.after m) m

/-- A history goes on with one step more. -/
theorem after_concat (history : List Step) (t : Step) (m : Memory) :
    m.after (history ++ [t]) = t.after (m.after history) := by
  rw [after, List.foldl_append]
  rfl

/-- A history goes on with a later one. -/
theorem after_append (history later : List Step) (m : Memory) :
    m.after (history ++ later) = (m.after history).after later :=
  List.foldl_append

/-- No history touches the environment or the names of the builtins, as `Session.Kept` says. -/
theorem kept_after (history : List Step) (m : Memory) :
    m.session.Kept (m.after history).session := by
  induction history generalizing m with
  | nil => exact .refl _
  | cons t history ih => exact (t.call.kept _).trans (ih (t.after m))

/-- A history keeps the directory in normal form. -/
theorem isNormal_dir_after {m : Memory} (h : Path.IsNormal m.session.dir) (history : List Step) :
    Path.IsNormal (m.after history).session.dir := by
  induction history generalizing m with
  | nil => exact h
  | cons t history ih =>
    -- A `cd` goes to a directory in normal form, and nothing else moves.
    have hstep : Path.IsNormal (t.after m).session.dir := by
      obtain ⟨name, words, -, hchange⟩ | ⟨-, heq⟩ := t.change_or_eq m
      · exact hchange.isNormal_dir h
      · rwa [heq]
    exact ih hstep

/-- No history takes back an exit that has been asked for. -/
theorem isSome_pendingExit_after {m : Memory} (h : m.session.pendingExit.isSome)
    (history : List Step) : (m.after history).session.pendingExit.isSome := by
  induction history generalizing m with
  | nil => exact h
  | cons t history ih =>
    have hstep : (t.after m).session.pendingExit.isSome := by
      obtain ⟨name, words, -, hchange⟩ | ⟨-, heq⟩ := t.change_or_eq m
      · exact hchange.isSome_pendingExit h
      · rwa [heq]
    exact ih hstep

end Memory

/-- In every history of a shell that starts in a directory in normal form, on whatever consoles and
    machines: `vars` and `builtins` stay, `dir` stays in normal form, and a `pendingExit` is not
    taken back.  A step changes the directory only to where its `cd` goes, and the pending exit only
    to the status that its `exit` asks for; a `cd` that goes nowhere and an `exit` that asks for no
    status leave the session as it was. -/
theorem history_keeps_session {initial : Session} (hdir : Path.IsNormal initial.dir) {σ : Type}
    [Console σ] [Machine σ] (stage : σ) (history : List Step) :
    let built := (start Table.standard initial stage).memory
    let s := (built.after history).session
    s.vars = initial.vars ∧ s.builtins = built.session.builtins ∧ Path.IsNormal s.dir ∧
    (∀ later, s.pendingExit.isSome →
      (built.after (history ++ later)).session.pendingExit.isSome) ∧
    ∀ next : Step,
      let s' := (built.after (history ++ [next])).session
      (s'.dir ≠ s.dir → ∃ words, next.call.command? = some ("cd", words) ∧
        s.Goes next.place words s'.dir) ∧
      (s'.pendingExit ≠ s.pendingExit → ∃ words, next.call.command? = some ("exit", words) ∧
        ∃ status : Status, status.Asked words ∧ s'.pendingExit = some status) ∧
      (∀ words, next.call.command? = some ("cd", words) →
        (∀ dir, ¬s.Goes next.place words dir) → s' = s) ∧
      (∀ words, next.call.command? = some ("exit", words) →
        (∀ status : Status, ¬status.Asked words) → s' = s) := by
  intro built s
  obtain ⟨hvars, hbuiltins⟩ := Memory.kept_after history built
  have hbuilt : Path.IsNormal built.session.dir := hdir
  have hnormal : Path.IsNormal s.dir := Memory.isNormal_dir_after hbuilt history
  refine ⟨hvars, hbuiltins, hnormal, fun later hexit => ?_, fun next => ?_⟩
  · rw [Memory.after_append]
    exact Memory.isSome_pendingExit_after hexit later
  intro s'
  have hs' : s' = (next.after (built.after history)).session := by
    rw [← Memory.after_concat]
  -- The last step of the longer history is the one after the shorter.
  rw [hs']
  refine ⟨fun hne => ?_, fun hne => ?_, fun words hcd hstay => ?_, fun words hexit hgo => ?_⟩
  · -- the directory
    obtain ⟨name, words, hcommand, hchange⟩ | ⟨-, heq⟩ := next.change_or_eq (built.after history)
    · obtain ⟨rfl, hgoes⟩ := hchange.goes_of_dir_ne hne
      exact ⟨words, hcommand, hgoes⟩
    · exact absurd (congrArg Session.dir heq) hne
  · -- the pending exit
    obtain ⟨name, words, hcommand, hchange⟩ | ⟨-, heq⟩ := next.change_or_eq (built.after history)
    · obtain ⟨rfl, hasked⟩ := hchange.asked_of_pendingExit_ne hne
      exact ⟨words, hcommand, hasked⟩
    · exact absurd (congrArg Session.pendingExit heq) hne
  · -- a `cd` that goes nowhere, and an `exit` that asks for no status
    exact (Step.change hcd).eq_self (fun _ => hstay) (fun h => absurd h (by decide))
  · exact (Step.change hexit).eq_self (fun h => absurd h (by decide)) (fun _ => hgo)

/-- A home directory that is not in normal form, a `cd` whose turn cannot be passed on, an `exit` on
    a console that takes nothing, a directory that is gone later on, and an `exit` with a word too
    many. -/
theorem history_home :
    let initial : Session := { vars := [("HOME", "x/..//b")], dir := "/a" }
    let there : Catalog := { paths := [("/a/b", ⟨true, 0o755⟩), ("/b", ⟨true, 0o755⟩)] }
    let history : List Step := [
      { stage := (({ mode := .noflush } : Sink), there), call := .execute "cd ~/./" },
      { stage := (({ mode := .broken } : Sink), there), call := .run "exit" ["-07"] },
      { stage := (({} : Sink), ({} : Catalog)), call := .execute "cd ../../b" }]
    let next : Step := { stage := (({} : Sink), there), call := .execute "exit 1 2" }
    let built := (start Table.standard initial (({} : Sink), there)).memory
    let s := (built.after history).session
    Path.IsNormal initial.dir ∧ s.dir = "/a/b" ∧ Path.IsNormal s.dir ∧ s.pendingExit = some (-7) ∧
      next.call.command? = some ("exit", ["1", "2"]) ∧
      (∀ status : Status, ¬status.Asked ["1", "2"]) ∧
      (built.after (history ++ [next])).session = s := by
  intro initial there history next built s
  have hdir : Path.IsNormal initial.dir := by decide
  have hasked : ∀ status : Status, ¬status.Asked ["1", "2"] := by simp [Status.Asked]
  have hbuilt : built = (start Table.standard initial (({} : Sink), there)).memory := rfl
  have hs : s = (built.after history).session := rfl
  obtain ⟨-, -, hnormal, -, hnext⟩ :=
    history_keeps_session hdir (({} : Sink), there) history
  obtain ⟨-, -, -, hexit⟩ := hnext next
  rw [← hbuilt, ← hs] at hnormal hexit
  have hcommand : next.call.command? = some ("exit", ["1", "2"]) := by decide +kernel
  have hmoved : s.dir = "/a/b" := by decide +kernel
  have hpending : s.pendingExit = some (-7) := by decide +kernel
  exact ⟨hdir, hmoved, hnormal, hpending, hcommand, hasked, hexit _ hcommand hasked⟩

end LineShell.Shell
