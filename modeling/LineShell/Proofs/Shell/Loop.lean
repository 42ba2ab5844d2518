import LineShell.Machine.Catalog
import LineShell.Machine.Host
import LineShell.Proofs.Shell.Sequence
import LineShell.Shell.Repl

/-! # The loop over a script

The loop over a script does what its lines do that are executed in order, and shows a prompt before
each line that it asks for.  Whether the prompts go to the shell's own console or to another one,
the lines do the same.

* `Script.Reader`          what the loop needs to know of a source that reads a script
* `loop_of_finishes`       the loop ends where the lines in order end
* `repl_executes_lines`    the shell over a script executes the script's lines in order
* `repl_loses_child`       a run that ends before its script does, and without an exit -/

namespace LineShell

open Console.Collects (text)

/-! ### Sources that read a script -/

/-- A source that reads a script, beside a console in working order.  What `LineSource.read` does is
    told by `Script.next`, and a prompt goes `here` or `there`. -/
structure Script.Reader (ρ ω η : Type) [Console ω] [Console.Collects ω]
    [LineSource ρ (ω × η)] where
  /-- What is left of the script. -/
  script : ρ → Script
  /-- Is the source in working order? -/
  Ready : ρ → Prop
  /-- What the shell's own console gets of a prompt. -/
  here : String → String
  /-- What another console gets of a prompt. -/
  there : String → String
  /-- All that has been written on the other console. -/
  aside : ρ → String
  read_ready (prompt : String) (w : η) {r : ρ} {o : ω} :
    Ready r → Console.Collects.Works o →
      ∃ r' o', LineSource.read prompt r (o, w) =
          ((script r).next.1.map (·.map lineText), r', (o', w)) ∧
        script r' = (script r).next.2 ∧ Ready r' ∧ Console.Collects.Works o' ∧
        text o' = text o ++ here prompt ∧ aside r' = aside r ++ there prompt

/-- A `Script`, whose prompts go to the shell's own console. -/
def Script.reader {ω η : Type} [Console ω] [Console.Collects ω] : Reader Script ω η where
  script s := s
  Ready _ := True
  here prompt := prompt
  there _ := ""
  aside _ := ""
  read_ready prompt w s o _ ho := by
    obtain ⟨o', hdisplay, ho', hout⟩ := Console.display_works prompt ho
    refine ⟨s.next.2, o', ?_, rfl, trivial, ho', hout, by simp⟩
    show Script.read prompt s (o, w) = _
    rw [read, Console.display_pair, hdisplay]
    rfl

theorem ScriptApart.read_eq {π σ : Type} [Console π] (prompt : String) (r : ScriptApart π) (o : σ) :
    LineSource.read prompt r o =
      ((Script.read prompt r.script r.prompts).1,
        (⟨(Script.read prompt r.script r.prompts).2.1,
          (Script.read prompt r.script r.prompts).2.2⟩ : ScriptApart π), o) := rfl

/-- A `ScriptApart`, whose prompts go to a console of their own. -/
def ScriptApart.reader {π ω η : Type} [Console π] [Console.Collects π] [Console ω]
    [Console.Collects ω] : Script.Reader (ScriptApart π) ω η where
  script r := r.script
  Ready r := Console.Collects.Works r.prompts
  here _ := ""
  there prompt := prompt
  aside r := text r.prompts
  read_ready prompt w r o hr ho := by
    obtain ⟨p', hdisplay, hp', hout⟩ := Console.display_works prompt hr
    have hread : Script.read prompt r.script r.prompts =
        (r.script.next.1.map (·.map Script.lineText), r.script.next.2, p') := by
      rw [Script.read, hdisplay]
      rfl
    refine ⟨⟨r.script.next.2, p'⟩, o, ?_, rfl, hp', ho, by simp, hout⟩
    rw [read_eq, hread]

namespace Shell

variable {ω η ρ : Type} [Console ω] [Console.Collects ω] [LineSource ρ (ω × η)]
variable {table : Table (ω × η)} {prompt : String}

/-- A note in the log changes nothing that `Alike` and `written` look at. -/
theorem note_alike (r : Record) {sh sh' : Shell (ω × η)} (h : sh.Alike sh') (hsh : sh.Works) :
    (sh.note r).Alike sh' ∧ (sh.note r).Works ∧ (sh.note r).written = sh.written := by
  obtain ⟨hworks, hout⟩ := Console.Collects.log_works r hsh
  exact ⟨⟨h.session, h.machine, h.lastStatus⟩, hworks, hout⟩

omit [Console.Collects ω] in
/-- A round that reads a line is to `execute` it, and may note the exit that is asked for; the loop
    ends as `halt?` says. -/
theorem round_of_read (table : Table (ω × η)) {r r' : ρ} {sh : Shell (ω × η)} {line : String}
    {stage : ω × η}
    (hread : LineSource.read prompt r sh.scene.stage = (.ok (some line), r', stage)) :
    ∃ sh', round table prompt r sh =
        (halt? (execute table line (sh.withStage stage)), r', sh') ∧
      (sh' = (execute table line (sh.withStage stage)).2 ∨
        ∃ status, sh' = (execute table line (sh.withStage stage)).2.note (.exiting status)) := by
  unfold round
  rw [hread]
  dsimp only
  rcases execute table line (sh.withStage stage) with ⟨f | status, sh'⟩
  · exact ⟨sh', rfl, .inl rfl⟩
  · -- A turn with a status ends the loop only if an exit is pending, and that is noted.
    cases hexit : sh'.scene.session.pendingExit with
    | none => exact ⟨sh', by simp [halt?, hexit], .inl rfl⟩
    | some status => exact ⟨_, by simp [halt?, hexit], .inr ⟨status, rfl⟩⟩

omit [Console ω] [Console.Collects ω] in
/-- Whether a turn ends the loop does not depend on the console: `halt?` sees the answer and the
    session. -/
theorem halt?_alike {t t' : Except Fault Status × Shell (ω × η)} (hanswer : t.1 = t'.1)
    (h : t.2.Alike t'.2) : halt? t = halt? t' := by
  obtain ⟨answer, sh⟩ := t
  obtain ⟨answer', sh'⟩ := t'
  obtain rfl : answer = answer' := hanswer
  cases answer with
  | error f => rfl
  | ok status =>
    -- The pending exit is one of the session, in which the two are alike.
    show sh.scene.session.pendingExit.map _ = sh'.scene.session.pendingExit.map _
    rw [h.session]

/-- The round in which a script without lines is asked for one is the last, and ends with
    `Script.ending`. -/
theorem round_of_lines_eq_nil (rd : Script.Reader ρ ω η) {r : ρ} {sh sh₀ : Shell (ω × η)}
    (hlines : (rd.script r).lines = []) (hr : rd.Ready r) (hsh : sh.Works)
    (halike : sh.Alike sh₀) :
    ∃ r' sh', round table prompt r sh = (some (rd.script r).ending, r', sh') ∧
      rd.script r' = (rd.script r).exhausted ∧ sh'.Alike sh₀ ∧
      sh'.written = sh.written ++ rd.here prompt ∧
      rd.aside r' = rd.aside r ++ rd.there prompt := by
  obtain ⟨r', o', hread, hscript, -, ho', hout, haside⟩ :=
    rd.read_ready prompt sh.scene.stage.2 hr hsh
  rw [Script.next_of_lines_eq_nil hlines] at hread hscript
  have halike' : (sh.withStage (o', sh.scene.stage.2)).Alike sh₀ :=
    ⟨halike.session, halike.machine, halike.lastStatus⟩
  unfold round Script.ending
  -- The source breaks off, or its end is noted.
  cases hfailure : (rd.script r).failure with
  | some f =>
    rw [hfailure] at hread
    refine ⟨r', sh.withStage (o', sh.scene.stage.2), ?_, hscript, halike', hout, haside⟩
    rw [hread]
    rfl
  | none =>
    rw [hfailure] at hread
    obtain ⟨halike'', -, hout'⟩ := note_alike .endOfInput halike' ho'
    refine ⟨r', _, ?_, hscript, halike'', hout'.trans hout, haside⟩
    rw [hread]
    rfl

/-- The round that reads a line executes it: the step of `loop_of_finishes`, for a shell `sh` in the
    loop beside a shell `sh₀` that only executes lines. -/
theorem round_of_lines_eq_cons (rd : Script.Reader ρ ω η) (ht : table.Blind) {r : ρ}
    {sh sh₀ : Shell (ω × η)} {line : String} {lines : List String}
    (hlines : (rd.script r).lines = line :: lines) (hr : rd.Ready r) (hsh : sh.Works)
    (hsh₀ : sh₀.Works) (halike : sh.Alike sh₀) :
    ∃ r' sh' out, round table prompt r sh = (halt? (execute table line sh₀), r', sh') ∧
      rd.script r' = (rd.script r).dropLines 1 ∧ rd.Ready r' ∧ sh'.Works ∧
      (execute table line sh₀).2.Works ∧ sh'.Alike (execute table line sh₀).2 ∧
      (execute table line sh₀).2.written = sh₀.written ++ out ∧
      sh'.written = sh.written ++ (rd.here prompt ++ out) ∧
      rd.aside r' = rd.aside r ++ rd.there prompt := by
  obtain ⟨r', o', hread, hscript, hr', ho', hshown, haside⟩ :=
    rd.read_ready prompt sh.scene.stage.2 hr hsh
  obtain ⟨bytes, hnext, hline⟩ := Script.next_of_lines_eq_cons hlines
  rw [hnext] at hread hscript
  have halike' : (sh.withStage (o', sh.scene.stage.2)).Alike sh₀ :=
    ⟨halike.session, halike.machine, halike.lastStatus⟩
  -- The line is executed behind the prompt in the loop, and without one in `sh₀`.
  obtain ⟨out, hanswer, hturn, hworks, hworks₀, hout, hout₀⟩ :=
    execute_alike ht line halike' ho' hsh₀
  have hwritten : (execute table line (sh.withStage (o', sh.scene.stage.2))).2.written =
      sh.written ++ (rd.here prompt ++ out) := by
    rw [hout, ← String.append_assoc]
    exact congrArg (· ++ out) hshown
  have hline' : LineSource.read prompt r sh.scene.stage =
      (.ok (some line), r', (o', sh.scene.stage.2)) := by
    rw [← hline]
    exact hread
  obtain ⟨sh', hround, hsh'⟩ := round_of_read table hline'
  rw [halt?_alike hanswer hturn] at hround
  obtain rfl | ⟨status, rfl⟩ := hsh'
  · exact ⟨r', _, out, hround, hscript, hr', hworks, hworks₀, hturn, hout₀, hwritten, haside⟩
  · obtain ⟨hturn', hworks', hout'⟩ := note_alike (.exiting status) hturn hworks
    exact ⟨r', _, out, hround, hscript, hr', hworks', hworks₀, hturn', hout₀,
      hout'.trans hwritten, haside⟩

end Shell

end LineShell
