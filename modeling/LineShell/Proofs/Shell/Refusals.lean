import LineShell.Machine.Catalog
import LineShell.Proofs.Command.Telling
import LineShell.Proofs.Shell.Children
import LineShell.Proofs.Shell.Reachable

/-! # Turns whose output is refused

A turn tells what it has to tell when everything else is done, in one go.  So a console that takes
no text changes a turn only where the turn has something to tell, and then the turn says so: it ends
with a fault, or, if its builtin has something to tell, it tells the reason instead.

* `obey_tells`               what a line tells, and when
* `execute_of_refuses`       a turn on a console that refuses the next text
* `mute_turn_fails_iff`      a console that takes nothing loses nothing without a fault
* `stumbling_turn_ends`      what becomes of a turn whose first text is refused -/

namespace LineShell.Shell

open Console (Mute Stumbles)
open Console.Collects (text)

/-- Do an act.  `lastStatus` stays. -/
def act {σ α : Type} (a : Act σ α) (sh : Shell σ) : Except Fault α × Shell σ :=
  ((a.run sh.scene).1, { sh with scene := (a.run sh.scene).2 })

/-- The line runs a builtin that has something to tell, as `Builtin.Speaks` says. -/
def Speaks (line : String) : Prop :=
  ∃ (b : Builtin) (words : List String),
    Words.words? line = .ok (b.name :: words) ∧ b.Speaks words

section Refused

variable {ω η : Type} [Console ω] [Machine η] {P : ω → Prop} {Q : Fault → ω → Prop}

/-- What a line does with `Table.standard`, in a session on a machine. -/
abbrev lineEffect (last : Status) (line : String) (s : Session) (w : η) : Effect η Status :=
  turnEffect Table.standardEffect last line s w

/-- Obeying a line comes down to an `Act.tell`, when everything else is done.  A line that has
    something to tell has a status and leaves the session alone, and the telling is guarded if a
    builtin speaks. -/
theorem obey_tells (hP : Console.Steady P) (line : String) (s : Session) (w : η) (last : Status)
    {o : ω} (ho : P o) :
    let e := lineEffect last line s w
    ∃ guarded texts o', P o' ∧ String.join texts = e.text ∧
      (e.text ≠ "" → (∃ status, e.answer = .ok status) ∧ e.session = s ∧
        (guarded = true ↔ Speaks line)) ∧
      obey Table.standard line (⟨⟨s, (o, w)⟩, last⟩ : Shell (ω × η)) =
        act (Act.tell guarded texts e.answer) ⟨⟨e.session, (o', e.machine)⟩, last⟩ := by
  unfold lineEffect turnEffect
  cases hline : Words.words? line with
  | error e =>
    -- the message about a quote is told by no builtin
    have hmute : ¬Speaks line := by
      rintro ⟨b, words, hwords, -⟩
      exact nomatch hwords.symm.trans hline
    refine ⟨false, [e.message, "\n"], o, ho, by simp,
      fun _ => ⟨⟨_, rfl⟩, rfl, nofun, fun h => absurd h hmute⟩, ?_⟩
    rw [obey, hline]
    have hsay := Act.run_say_pure [e.message, "\n"] Status.badLine (⟨s, (o, w)⟩ : Scene (ω × η))
    exact (congrArg (fun done => (done.1, (⟨done.2, last⟩ : Shell (ω × η)))) hsay).symm
  | ok words =>
    cases words with
    | nil =>
      refine ⟨false, [], _, hP.log (.words line []) ho, rfl, fun h => absurd rfl h, ?_⟩
      rw [obey, hline]
      rfl
    | cons name operands =>
      have hnoted : P (Console.log (.words line (name :: operands)) o) := hP.log _ ho
      obtain ⟨o', texts, ho', htexts, hrun⟩ := Table.run_tells hP s w name operands _ hnoted
      refine ⟨Table.isGuarded s w name operands, texts, o', ho', htexts, fun htext => ?_, ?_⟩
      · -- the line speaks if the builtin that it names does
        obtain ⟨hstatus, hsame, hguarded⟩ := Table.standardEffect_of_text htext
        refine ⟨hstatus, hsame, hguarded.trans ⟨?_, ?_⟩⟩
        · rintro ⟨b, rfl, hspeaks⟩
          exact ⟨b, operands, hline, hspeaks⟩
        · rintro ⟨b, words, hwords, hspeaks⟩
          obtain ⟨rfl, rfl⟩ := List.cons.inj (Except.ok.inj (hline.symm.trans hwords))
          exact ⟨b, rfl, hspeaks⟩
      · rw [obey, hline]
        exact congrArg (fun done => (done.1, (⟨done.2, last⟩ : Shell (ω × η)))) hrun

omit [Machine η] in
/-- Concluding a turn on a console that is `Steady`, and so can be flushed: the answer stays what it
    is. -/
theorem conclude_of_steady (hP : Console.Steady P) (answer : Except Fault Status) (last : Status)
    (s : Session) (w : η) {o : ω} (ho : P o) :
    ∃ o', P o' ∧ conclude (answer, (⟨⟨s, (o, w)⟩, last⟩ : Shell (ω × η))) =
      (answer, ⟨⟨s, (o', w)⟩, lastAfter last answer⟩) := by
  cases answer with
  | error f => exact ⟨o, ho, rfl⟩
  | ok status =>
    obtain ⟨o', hflush, ho'⟩ := hP.flush ho
    refine ⟨o', ho', ?_⟩
    rw [conclude, Console.flush_pair, hflush]
    rfl

/-- A turn on a console that `Refuses` the next text: one that has nothing to tell does what it
    always does, and any other leaves the session alone.  If a builtin speaks the turn tells the
    reason, and else it ends with the fault. -/
theorem execute_of_refuses (h : Console.Refuses P Q) (line : String) (s : Session) (w : η)
    (last : Status) {o : ω} (ho : P o) :
    let e := lineEffect last line s w
    let turn := execute Table.standard line (⟨⟨s, (o, w)⟩, last⟩ : Shell (ω × η))
    (e.text = "" → ∃ o', P o' ∧
      turn = (e.answer, ⟨⟨e.session, (o', e.machine)⟩, lastAfter last e.answer⟩)) ∧
    (e.text ≠ "" → e.session = s ∧ ∃ f o', Q f o' ∧
      (¬Speaks line → turn = (.error f, ⟨⟨s, (o', e.machine)⟩, last⟩)) ∧
      (Speaks line → turn =
        conclude (act (Act.tell false [f.message, "\n"] (.ok 1))
          ⟨⟨s, (o', e.machine)⟩, last⟩))) := by
  intro e turn
  obtain ⟨guarded, texts, o₁, ho₁, htexts, htext, hobey⟩ :=
    obey_tells h.toSteady line s w last ho
  -- All that a turn writes is told at its end, so the console is as good as new until then.
  have hturn : turn = conclude
      (act (Act.tell guarded texts e.answer) ⟨⟨e.session, (o₁, e.machine)⟩, last⟩) := by
    rw [← hobey]
    exact execute_eq _ _ _
  refine ⟨fun hempty => ?_, fun hne => ?_⟩
  · -- nothing is told, so the turn is concluded as always
    rw [hempty] at htexts
    obtain ⟨o₂, ho₂, hconclude⟩ :=
      conclude_of_steady h.toSteady e.answer last e.session e.machine ho₁
    refine ⟨o₂, ho₂, ?_⟩
    rw [hturn, act, Act.run_tell_of_join_eq guarded htexts]
    exact hconclude
  · -- the text is refused, and the guard decides about the reason
    obtain ⟨⟨status, hanswer⟩, hsame, hguarded⟩ := htext hne
    rw [← htexts] at hne
    obtain ⟨f, o₂, ho₂, htell⟩ :=
      Act.run_tell_of_refuses h guarded hne status e.session e.machine ho₁
    rw [hanswer, hsame] at hturn
    rw [hsame] at htell
    refine ⟨hsame, f, o₂, ho₂, fun hmute => ?_, fun hspeaks => ?_⟩
    · obtain rfl : guarded = false := by simpa [hmute] using hguarded
      rw [hturn, act, htell]
      rfl
    · obtain rfl : guarded = true := hguarded.mpr hspeaks
      rw [hturn, act, htell]
      rfl

/-- A turn on a console that is `Mute` ends with a fault if it has something to tell, and does what
    it always does if it has not. -/
theorem execute_of_mute (line : String) (s : Session) (w : η) (last : Status) {o : ω}
    (ho : Mute o) :
    let e := lineEffect last line s w
    let turn := execute Table.standard line (⟨⟨s, (o, w)⟩, last⟩ : Shell (ω × η))
    (e.text = "" → ∃ o', Mute o' ∧
      turn = (e.answer, ⟨⟨e.session, (o', e.machine)⟩, lastAfter last e.answer⟩)) ∧
    (e.text ≠ "" → ∃ f o', Mute o' ∧ turn = (.error f, ⟨⟨s, (o', e.machine)⟩, last⟩)) := by
  intro e turn
  obtain ⟨hempty, hrefused⟩ := execute_of_refuses Console.refuses_mute line s w last ho
  refine ⟨hempty, fun hne => ?_⟩
  obtain ⟨-, f, o₁, ho₁, hfault, hreason⟩ := hrefused hne
  by_cases hspeaks : Speaks line
  · -- the reason is refused as well
    have htexts : String.join [f.message, "\n"] ≠ "" := by simp
    obtain ⟨f', o₂, ho₂, htell⟩ :=
      Act.run_tell_of_refuses Console.refuses_mute false htexts 1 s e.machine ho₁
    refine ⟨f', o₂, ho₂, (hreason hspeaks).trans ?_⟩
    rw [act, htell]
    rfl
  · exact ⟨f, o₁, ho₁, hfault hspeaks⟩

end Refused

/-! ### Consoles that take no text, and consoles that refuse one -/

section Beside

variable {ω ω' η : Type} [Console ω] [Console.Collects ω] [Console ω'] [Machine η]

omit [Console.Collects ω] [Console ω'] in
theorem Turn.eq_of_execute {t : Turn (ω × η)} {result : Except Fault Status} {sh : Shell (ω × η)}
    (h : execute Table.standard t.line t.sh = (result, sh)) :
    t.result = result ∧ t.after = sh :=
  ⟨congrArg Prod.fst h, congrArg Prod.snd h⟩

omit [Console ω'] in
/-- What a turn on a console that `Works` ends with, leaves and tells: its `lineEffect`. -/
theorem execute_of_works (line : String) (s : Session) (w : η) (last : Status) {o : ω}
    (ho : Console.Collects.Works o) :
    let e := lineEffect last line s w
    ∃ o₁, text o₁ = text o ++ e.text ∧
      execute Table.standard line (⟨⟨s, (o, w)⟩, last⟩ : Shell (ω × η)) =
        (e.answer, ⟨⟨e.session, (o₁, e.machine)⟩, lastAfter last e.answer⟩) := by
  intro e
  have hsh : (⟨⟨s, (o, w)⟩, last⟩ : Shell (ω × η)).Works := ho
  obtain ⟨o₁, hrun, -, htext⟩ := execute_standard line hsh
  exact ⟨o₁, htext, hrun⟩

/-- A console that takes no text loses nothing without a fault.  Beside a console in working order a
    turn ends with a status, unless it loses a child (`LosesChild`).  A turn `mute` beside a console
    that takes no text ends with a fault, and leaves the session and the status of the last turn as
    they were, exactly if the `turn` beside the working one writes some `out`; and if `out = ""` the
    two turns are the same in everything, the fault of a lost child included.  The children are the
    same in any case. -/
theorem mute_turn_fails_iff (line : String) {s : Session} (hs : s.Reachable) (w : η)
    (last : Status) {o : ω} (ho : Console.Collects.Works o) {o' : ω'} (ho' : Mute o') :
    let turn : Turn (ω × η) := ⟨line, ⟨⟨s, (o, w)⟩, last⟩⟩
    let mute : Turn (ω' × η) := ⟨line, ⟨⟨s, (o', w)⟩, last⟩⟩
    ∃ out, turn.after.written = text o ++ out ∧
      ((∃ status, turn.result = .ok status ∧
          ((∃ f, mute.result = .error f ∧ mute.after.scene.session = s ∧
            mute.after.lastStatus = last) ↔ out ≠ "")) ∨
        ∃ f, LosesChild line s w f ∧ turn.result = .error f ∧ out = "") ∧
      (out = "" → mute.result = turn.result ∧
        mute.after.scene.session = turn.after.scene.session ∧
        mute.after.lastStatus = turn.after.lastStatus) ∧
      mute.after.scene.stage.2 = turn.after.scene.stage.2 ∧
      mute.events.filter Event.isSpawn = turn.events.filter Event.isSpawn ∧
      Mute mute.after.scene.stage.1 := by
  intro turn mute
  obtain ⟨o₁, htext, hturn⟩ := execute_of_works line s w last ho
  obtain ⟨hempty, hrefused⟩ := execute_of_mute line s w last ho'
  -- both turns ask the same machine for the same child, whatever the consoles take
  have hchildren : mute.events.filter Event.isSpawn = turn.events.filter Event.isSpawn :=
    (mute.filter_isSpawn_of_steady Console.refuses_mute.toSteady hs.knowsBuiltins ho').trans
      (turn.filter_isSpawn_of_steady Console.steady_works hs.knowsBuiltins ho).symm
  obtain ⟨hresult, hafter⟩ := Turn.eq_of_execute (t := turn) hturn
  refine ⟨(lineEffect last line s w).text, ?_, ?_⟩
  · rw [hafter]
    exact htext
  by_cases hout : (lineEffect last line s w).text = ""
  · -- nothing is told, so nothing can be refused
    obtain ⟨o₂, ho₂, hmute⟩ := hempty hout
    obtain ⟨hmresult, hmafter⟩ := Turn.eq_of_execute (t := mute) hmute
    rw [hmresult, hmafter, hresult, hafter]
    refine ⟨?_, fun _ => ⟨rfl, rfl, rfl⟩, rfl, hchildren, ho₂⟩
    obtain ⟨status, hanswer⟩ | ⟨f, hlost, -, hanswer⟩ := turnEffect_answer last line s w
    · refine .inl ⟨status, hanswer, ?_, absurd hout⟩
      rintro ⟨f, hf, -⟩
      exact nomatch hf.symm.trans hanswer
    · exact .inr ⟨f, hlost, hanswer, hout⟩
  · -- what is told is refused, and the turn ends there
    obtain ⟨f, o₂, ho₂, hmute⟩ := hrefused hout
    obtain ⟨hmresult, hmafter⟩ := Turn.eq_of_execute (t := mute) hmute
    rw [hmresult, hmafter, hresult, hafter]
    refine ⟨?_, fun h => absurd h hout, rfl, hchildren, ho₂⟩
    obtain ⟨status, hanswer⟩ | ⟨f, -, hsilent, -⟩ := turnEffect_answer last line s w
    · exact .inl ⟨status, hanswer, fun _ => hout, fun _ => ⟨f, rfl, rfl, rfl⟩⟩
    · exact absurd hsilent hout

/-- `echo` has something to tell and a program that runs has not, beside a sink of which every write
    fails. -/
theorem mute_turn_fails_iff_echo :
    let machine : Catalog := {
      paths := [(Octets.ofText "/bin/tool", ⟨false, 0o755⟩)]
      programs := [(Octets.ofText "/bin/tool", .exited 3)] }
    let s : Session := (start Table.standard { vars := [("PATH", "/bin")], dir := "/" }
      (({}, machine) : Sink × Catalog)).scene.session
    let turn (line : String) : Turn (Sink × Catalog) := ⟨line, ⟨⟨s, ({}, machine)⟩, 7⟩⟩
    let mute (line : String) : Turn (Sink × Catalog) :=
      ⟨line, ⟨⟨s, ({ mode := .broken }, machine)⟩, 7⟩⟩
    s.Reachable ∧ (turn "echo hi").after.written = "hi\n" ∧
      (∃ f, (mute "echo hi").result = .error f ∧ (mute "echo hi").after.scene.session = s ∧
        (mute "echo hi").after.lastStatus = 7) ∧
      (turn "tool").after.written = "" ∧ (mute "tool").result = .ok 3 := by
  intro machine s turn mute
  have hs : s.Reachable := .start _ (({}, machine) : Sink × Catalog)
  have hmute : Mute ({ mode := .broken } : Sink) := Sink.mute rfl
  have htold : (turn "echo hi").after.written = "hi\n" := by decide +kernel
  have hnothing : (turn "tool").after.written = "" := by decide +kernel
  have hthree : (turn "tool").result.toOption = some 3 := by decide +kernel
  obtain ⟨out, hout, hecho, -⟩ :=
    mute_turn_fails_iff "echo hi" hs machine 7 (o := ({} : Sink)) rfl hmute
  obtain ⟨out', hout', -, hsame, -⟩ :=
    mute_turn_fails_iff "tool" hs machine 7 (o := ({} : Sink)) rfl hmute
  have hne : out ≠ "" := by
    rintro rfl
    exact absurd (htold.symm.trans hout) (by decide)
  obtain ⟨-, -, hfails⟩ | ⟨f, -, -, hsilent⟩ := hecho
  · refine ⟨hs, htold, hfails.mpr hne, hnothing, ?_⟩
    obtain rfl : out' = "" := by simpa [text, Sink.text] using hout'.symm.trans hnothing
    refine (hsame rfl).1.trans ?_
    generalize (turn "tool").result = result at hthree
    cases result with
    | error f => exact nomatch hthree
    | ok status =>
      obtain rfl : status = 3 := Option.some.inj hthree
      rfl
  · exact absurd hsilent hne

/-- What becomes of a turn whose first text is refused, if the turn has something to tell.  If its
    line runs `echo`, `pwd` without operands, or `type` with a name (`Speaks`), then the reason
    `f.message` is all that is told, and the status is 1.  In every other case nothing is told, `f`
    is the fault that the turn ends with, and the status of the last turn stays.  The session is
    left alone either way. -/
theorem stumbling_turn_ends [Console.Collects ω'] (line : String) (s : Session) (w : η)
    (last : Status) {o : ω} (ho : Console.Collects.Works o) {f : Fault} {o' : ω'}
    (ho' : Stumbles f o')
    (htells : (Turn.mk line ⟨⟨s, (o, w)⟩, last⟩ : Turn (ω × η)).after.written ≠ text o) :
    let stumbling : Turn (ω' × η) := ⟨line, ⟨⟨s, (o', w)⟩, last⟩⟩
    (Speaks line → stumbling.result = .ok 1 ∧
      stumbling.after.written = text o' ++ (f.message ++ "\n") ∧
      stumbling.after.lastStatus = 1) ∧
    (¬Speaks line → stumbling.result = .error f ∧ stumbling.after.written = text o' ∧
      stumbling.after.lastStatus = last) ∧
    stumbling.after.scene.session = s ∧ stumbling.after.Works := by
  intro stumbling
  obtain ⟨o₁, htext, hturn⟩ := execute_of_works line s w last ho
  have hne : (lineEffect last line s w).text ≠ "" := by
    intro hempty
    rw [hempty, String.append_empty] at htext
    exact htells ((congrArg (fun turn => turn.2.written) hturn).trans htext)
  -- What was refused leaves the console in working order again.
  obtain ⟨P, hP, ho'⟩ := ho'
  obtain ⟨-, hrefused⟩ := execute_of_refuses hP line s w last ho'
  obtain ⟨-, f', o₂, ⟨rfl, ho₂, hsame⟩, hfault, hreason⟩ := hrefused hne
  by_cases hspeaks : Speaks line
  · -- the console is in working order for the reason, and for the flush behind it
    have hreport : (Act.tell false [f'.message, "\n"] (.ok 1) : Act (ω' × η) Status).Yields
        s (lineEffect last line s w).machine ⟨.ok 1, s, _, f'.message ++ "\n"⟩ :=
      Act.Yields.say_pure (by simp) 1
    obtain ⟨o₃, htell, ho₃, htold⟩ := hreport o₂ ho₂
    obtain ⟨o₄, hflush, ho₄, hkept⟩ := Console.Collects.flush_works ho₃
    have hrun : execute Table.standard line (⟨⟨s, (o', w)⟩, last⟩ : Shell (ω' × η)) =
        (.ok 1, ⟨⟨s, (o₄, (lineEffect last line s w).machine)⟩, 1⟩) := by
      rw [hreason hspeaks, act, htell, conclude, Console.flush_pair, hflush]
      rfl
    obtain ⟨hresult, hafter⟩ := Turn.eq_of_execute (t := stumbling) hrun
    rw [hresult, hafter]
    refine ⟨fun _ => ⟨rfl, ?_, rfl⟩, fun hmute => absurd hspeaks hmute, rfl, ho₄⟩
    show text o₄ = _
    rw [hkept, htold, hsame]
  · obtain ⟨hresult, hafter⟩ := Turn.eq_of_execute (t := stumbling) (hfault hspeaks)
    rw [hresult, hafter]
    exact ⟨fun h => absurd h hspeaks, fun _ => ⟨rfl, hsame, rfl⟩, rfl, ho₂⟩

/-- `type` with two names, and a name that means nothing, beside a sink of which the next write
    fails. -/
theorem stumbling_turn_ends_type :
    let s : Session :=
      (start Table.standard { dir := "/" } (({}, {}) : Sink × Catalog)).scene.session
    let stumbling (line : String) : Turn (Sink × Catalog) :=
      ⟨line, ⟨⟨s, ({ mode := .once, text := "$ " }, {})⟩, 7⟩⟩
    (stumbling "type cd nope").result = .ok 1 ∧
      (stumbling "type cd nope").after.written = "$ sink failed\n" ∧
      (stumbling "nope").result = .error (.stream "sink failed") ∧
      (stumbling "nope").after.written = "$ " ∧ (stumbling "nope").after.lastStatus = 7 := by
  intro s stumbling
  have hstumbles : Stumbles (.stream "sink failed") ({ mode := .once, text := "$ " } : Sink) :=
    Sink.stumbles rfl
  have hspeaks : Speaks "type cd nope" :=
    ⟨.type, ["cd", "nope"], rfl, .type "cd" ["nope"]⟩
  have hmute : ¬Speaks "nope" := by
    rintro ⟨b, words, hwords, hb⟩
    have hname : Words.words? "nope" = .ok ["nope"] := rfl
    obtain ⟨hb', rfl⟩ := List.cons.inj (Except.ok.inj (hname.symm.trans hwords))
    cases b <;> exact absurd hb' (by decide)
  obtain ⟨htype, -, -⟩ := stumbling_turn_ends "type cd nope" s ({} : Catalog) 7
    (o := ({} : Sink)) rfl hstumbles (by decide +kernel)
  obtain ⟨-, hnope, -⟩ := stumbling_turn_ends "nope" s ({} : Catalog) 7
    (o := ({} : Sink)) rfl hstumbles (by decide +kernel)
  obtain ⟨hone, hreason, -⟩ := htype hspeaks
  obtain ⟨hfault, hnothing, hlast⟩ := hnope hmute
  exact ⟨hone, hreason, hfault, hnothing, hlast⟩

end Beside

end LineShell.Shell
