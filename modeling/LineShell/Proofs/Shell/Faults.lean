import LineShell.Console.Sink
import LineShell.Machine.Catalog
import LineShell.Proofs.Shell.History

/-! # Faults of the output

A console may refuse any write and any flush.  What a turn makes of the session does not depend on
that: a builtin decides and commits before it writes, and everything else leaves the session alone.
So two consoles with whatever faults lead to the same session, and only a `cd` or an `exit` can have
done something in a turn that failed.

* `Call.session_eq`        the session behind a call, told without the console
* `execute_of_answer`      a turn whose builtin writes nothing can fail in its last flush only
* `faults_spare_session`   two consoles, one session -/

namespace LineShell

/-! ### Builtins that write nothing -/

section Silent

variable {σ : Type} [Console σ]

/-- A console with `Silent` is not touched by a log. -/
theorem Console.logAll_of_silent (h : Silent σ) (rs : List Record) (o : σ) : logAll rs o = o := by
  induction rs with
  | nil => rfl
  | cons r rs ih =>
    rw [logAll, List.foldl_cons, h r o]
    exact ih

/-- An answer without text is delivered without a fault, on any console. -/
theorem Answer.deliver_silent (session : Session) (status : Status) (findings : List Record)
    (scene : Scene σ) :
    ((done session [] status findings).deliver : Act σ Status).run scene =
      (.ok status, ⟨session, Console.logAll findings scene.stage⟩) := rfl

/-- Running a builtin delivers what `Builtin.answer` decides, behind a note. -/
theorem Table.run_builtin [Machine σ] (b : Builtin) (words : List String) (scene : Scene σ) :
    (standard.run b.name words : Act σ Status).run scene =
      (b.answer scene.session scene.stage words).deliver.run
        { scene with stage := Console.log (.dispatch b.name words) scene.stage } := by
  rw [standard_run, Act.run_bind, Act.run_get, Builtin.named?_name]
  rfl

end Silent

namespace Shell

/-! ### Sessions without consoles -/

section

variable {η : Type} [Machine η]

/-- What a command makes of the session does not depend on the console beside the machine. -/
theorem standardSession_pair {ω : Type} (s : Session) (p : ω × η) (name : String)
    (words : List String) :
    Table.standardSession s p name words = Table.standardSession s p.2 name words := by
  unfold Table.standardSession
  cases Builtin.named? name with
  | some b => exact congrArg (·.session s) (b.answer_pair s p.1 p.2 words)
  | none => rfl

/-- The session that a call leaves, told by the session and the machine before it: there is no
    console in it. -/
def Call.session (c : Call) (s : Session) (w : η) : Session :=
  match c.command? with
  | some (name, words) => Table.standardSession s w name words
  | none => s

omit [Machine η] in
theorem Call.stage_snd {ω : Type} [Console ω] (c : Call) (o : ω) (w : η) :
    (c.stage (o, w)).2 = w := by
  unfold stage
  split
  · split <;> rfl
  · rfl

/-- The session behind a call is `Call.session`, so it does not depend on the console. -/
theorem Call.session_eq {ω : Type} [Console ω] (c : Call) (s : Session) (o : ω) (w : η)
    (last : Status) :
    (c.perform Table.standard (⟨⟨s, (o, w)⟩, last⟩ : Shell (ω × η))).2.scene.session =
      c.session s w := by
  rw [perform_session, session]
  cases c.command? with
  | none => rfl
  | some command =>
    -- builtins look at the machine only, and noting the words leaves it alone
    have hmachine : (c.stage (o, w)).2 = w := c.stage_snd o w
    exact (standardSession_pair s _ command.1 command.2).trans (by rw [hmachine])

end

/-! ### Turns that can fail in their last flush only -/

/-- A turn whose builtin writes nothing can fail in its last flush only, which is that of
    `conclude`. -/
theorem execute_of_answer {ω η : Type} [Console ω] [Machine η] {b : Builtin} {line : String}
    {operands : List String} {s s' : Session} {w : η} {status : Status} {findings : List Record}
    (hline : Words.words? line = .ok (b.name :: operands))
    (hanswer : b.answer s w operands = .done s' [] status findings) (o : ω) (last : Status) :
    ∃ rs, execute Table.standard line (⟨⟨s, (o, w)⟩, last⟩ : Shell (ω × η)) =
      conclude (.ok status, ⟨⟨s', (Console.logAll rs o, w)⟩, last⟩) := by
  -- noting the words leaves the machine alone, and a builtin sees nothing else of the stage
  have hnoted : b.answer s (Console.log (.words line (b.name :: operands)) (o, w)) operands =
      .done s' [] status findings := (b.answer_pair s _ w operands).trans hanswer
  -- All that reaches the console before the flush are notes.
  let rs : List Record :=
    .words line (b.name :: operands) :: .dispatch b.name operands :: findings
  have hstage : Console.logAll rs (o, w) = (Console.logAll rs o, w) := Console.logAll_pair rs o w
  refine ⟨rs, ?_⟩
  rw [execute_eq, obey, hline]
  dsimp only
  rw [run, note, Table.run_builtin, hnoted, Answer.deliver_silent]
  show conclude (.ok status, ⟨⟨s', Console.logAll rs (o, w)⟩, last⟩) = _
  rw [hstage]

/-- Executing a line makes its status the `lastStatus`, unless a fault ends the turn. -/
theorem lastStatus_execute {σ : Type} [Console σ] (table : Table σ) (line : String)
    (sh : Shell σ) :
    (execute table line sh).2.lastStatus =
      match (execute table line sh).1 with
      | .ok status => status
      | .error _ => sh.lastStatus := by
  unfold execute
  rcases Act.run (table.turn sh.lastStatus line) sh.scene with ⟨f | status, scene⟩ <;> rfl

/-- Executing a line on one console or on another one, with whatever faults, leaves the same
    session, and each of the two turns leaves `lastStatus` as it says itself.  A `cd` that goes to a
    directory and an `exit` that asks for a status take effect, and their turns can fail in the
    flush of `conclude` only; a turn of any other line that fails leaves the session as it was. -/
theorem faults_spare_session {ω ω' η : Type} [Console ω] [Console ω'] [Machine η] (line : String)
    (s : Session) (w : η) (last : Status) (o : ω) (o' : ω') :
    let sh : Shell (ω × η) := ⟨⟨s, (o, w)⟩, last⟩
    let sh' : Shell (ω' × η) := ⟨⟨s, (o', w)⟩, last⟩
    let turn := execute Table.standard line sh
    let turn' := execute Table.standard line sh'
    turn.2.scene.session = turn'.2.scene.session ∧
    turn.2.lastStatus = (match turn.1 with | .ok status => status | .error _ => last) ∧
    turn'.2.lastStatus = (match turn'.1 with | .ok status => status | .error _ => last) ∧
    (∀ name words, (run Table.standard name words sh).2.lastStatus = last ∧
      (run Table.standard name words sh).2.scene.session =
        (run Table.standard name words sh').2.scene.session) ∧
    (∀ operands dir, Words.words? line = .ok ("cd" :: operands) → s.Goes w operands dir →
      ∃ rs, turn = conclude (.ok 0, ⟨⟨{ s with dir }, (Console.logAll rs o, w)⟩, last⟩)) ∧
    (∀ operands status, Words.words? line = .ok ("exit" :: operands) →
      Status.Asked operands status →
      ∃ rs, turn = conclude (.ok status,
        ⟨⟨{ s with pendingExit := some status }, (Console.logAll rs o, w)⟩, last⟩)) ∧
    ((∀ operands, Words.words? line = .ok ("cd" :: operands) → ∀ dir, ¬s.Goes w operands dir) →
      (∀ operands, Words.words? line = .ok ("exit" :: operands) →
        ∀ status : Status, ¬status.Asked operands) →
      turn.2.scene.session = s) := by
  intro sh sh' turn turn'
  have hsession := Call.session_eq (.execute line) s o w last
  have hsession' := Call.session_eq (.execute line) s o' w last
  refine ⟨hsession.trans hsession'.symm, lastStatus_execute _ _ _, lastStatus_execute _ _ _,
    fun name words => ⟨rfl, ?_⟩, fun operands dir hline hgoes => ?_,
    fun operands status hline hasked => ?_, fun hcd hexit => ?_⟩
  · exact (Call.session_eq (.run name words) s o w last).trans
      (Call.session_eq (.run name words) s o' w last).symm
  · -- a `cd` that goes somewhere, and an `exit` that asks for a status: neither has text
    obtain ⟨findings, hanswer⟩ := Builtin.answer_of_goes hgoes
    exact execute_of_answer (b := .cd) hline hanswer o last
  · exact execute_of_answer (b := .exit) hline (Builtin.answer_of_asked hasked) o last
  · -- a line of neither kind: its command changes nothing, if it has one
    refine hsession.trans ?_
    rw [Call.session, Call.command?]
    rcases hline : Words.words? line with e | words
    · rfl
    · cases words with
      | nil => rfl
      | cons name operands =>
        refine (Table.change_standardSession s w name operands).eq_self ?_ ?_
        · rintro rfl
          exact hcd operands hline
        · rintro rfl
          exact hexit operands hline

/-- A `cd` on a console that works and on one that cannot be flushed, which moves both times. -/
theorem faults_spare_cd :
    let s : Session := { dir := "/" }
    let w : Catalog := { paths := [("/a", ⟨true, 0o755⟩)] }
    let turn (o : Sink) := execute Table.standard "cd a" (⟨⟨s, (o, w)⟩, 5⟩ : Shell (Sink × Catalog))
    Words.words? "cd a" = .ok ["cd", "a"] ∧ s.Goes w ["a"] "/a" ∧
      (turn {}).1 = .ok 0 ∧ (turn {}).2.lastStatus = 0 ∧
      (turn { mode := .noflush }).1 = .error (.stream "flush failed") ∧
      (turn { mode := .noflush }).2.lastStatus = 5 ∧
      (turn {}).2.scene.session = (turn { mode := .noflush }).2.scene.session ∧
      (turn { mode := .noflush }).2.scene.session = { s with dir := "/a" } := by
  intro s w turn
  have hline : Words.words? "cd a" = .ok ["cd", "a"] := rfl
  have hgoes : s.Goes w ["a"] "/a" := ⟨"a", "a", rfl, rfl, by decide +kernel, by decide +kernel⟩
  obtain ⟨hsame, hlast, hlast', -, -⟩ :=
    faults_spare_session "cd a" s w 5 ({} : Sink) ({ mode := .noflush } : Sink)
  -- On a `Sink` the notes leave no trace, so the turn is known up to its flush.
  have hmoves (o : Sink) : turn o = conclude (.ok 0, ⟨⟨{ s with dir := "/a" }, (o, w)⟩, 5⟩) := by
    obtain ⟨-, -, -, -, hgo, -⟩ := faults_spare_session "cd a" s w 5 o o
    obtain ⟨rs, hturn⟩ := hgo ["a"] "/a" hline hgoes
    rwa [Console.logAll_of_silent Sink.silent] at hturn
  have hmade : (turn {}).1 = .ok 0 := congrArg Prod.fst (hmoves {})
  have hfailed : (turn { mode := .noflush }).1 = .error (.stream "flush failed") :=
    congrArg Prod.fst (hmoves { mode := .noflush })
  refine ⟨hline, hgoes, hmade, ?_, hfailed, ?_, hsame, ?_⟩
  · rw [hlast, hmade]
  · rw [hlast', hfailed]
  · exact congrArg (·.2.scene.session) (hmoves { mode := .noflush })

end Shell

end LineShell
