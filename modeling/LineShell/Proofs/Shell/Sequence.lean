import LineShell.Proofs.Command.Standard
import LineShell.Proofs.Shell.Lines

/-! # Lines in order

Executing lines one after the other, without a loop around them: the shell that is left, what each
line writes, and where a loop over a script has to end.  Beside a console in working order, a table
that is blind to the console makes the same of the same line whatever the console holds.

* `execute_yields`    what executing a line does, told by the effects of the table
* `turnEffect_answer` a line of the standard table has a status unless its child is lost
* `execute_alike`     a line does the same to shells that differ in their consoles only
* `exists_finishes`   lines in order come to an end
* `exists_writes`     each line in order writes some text -/

namespace LineShell

/-- How a loop over a script ends when no turn ends it: by the `failure` of the script if it has
    one, and else with `0`. -/
def Script.ending (s : Script) : Except Fault Status :=
  match s.failure with
  | some f => .error (.unreadable f)
  | none => .ok 0

namespace Shell

open Console.Collects (text)

/-! ### Shells on consoles in working order -/

section Working

variable {ω η : Type} [Console ω] [Console.Collects ω]

/-- The console of the shell is in working order, as `Console.Collects.Works` says. -/
def Works (sh : Shell (ω × η)) : Prop := Console.Collects.Works sh.scene.stage.1

/-- All that has been written on the console of the shell: its `text`. -/
def written (sh : Shell (ω × η)) : String := text sh.scene.stage.1

omit [Console ω] [Console.Collects ω] in
/-- Two shells that differ in their consoles only. -/
structure Alike (sh sh' : Shell (ω × η)) : Prop where
  session : sh.scene.session = sh'.scene.session
  machine : sh.scene.stage.2 = sh'.scene.stage.2
  lastStatus : sh.lastStatus = sh'.lastStatus

omit [Console ω] [Console.Collects ω] in
theorem Alike.refl (sh : Shell (ω × η)) : sh.Alike sh := ⟨rfl, rfl, rfl⟩

omit [Console ω] [Console.Collects ω] in
theorem Alike.symm {sh sh' : Shell (ω × η)} (h : sh.Alike sh') : sh'.Alike sh :=
  ⟨h.session.symm, h.machine.symm, h.lastStatus.symm⟩

omit [Console ω] [Console.Collects ω] in
theorem Alike.trans {sh sh' sh'' : Shell (ω × η)} (h : sh.Alike sh') (h' : sh'.Alike sh'') :
    sh.Alike sh'' :=
  ⟨h.session.trans h'.session, h.machine.trans h'.machine, h.lastStatus.trans h'.lastStatus⟩

/-- An act with `Act.flush` behind it, as the end of a turn, yields what the act yields. -/
private theorem yields_flush {a : Act (ω × η) Status} {s : Session} {w : η} {e : Effect η Status}
    (ha : a.Yields s w e) :
    (do
      let status ← a
      Act.flush
      return status : Act (ω × η) Status).Yields s w e := by
  obtain ⟨f | status, s', w', t⟩ := e
  · -- a fault comes before the flush
    exact ha.bind_error
  · have h := ha.bind (f := fun status => do
      Act.flush
      return status) (Act.Yields.flush.bind_silent (Act.Yields.pure status))
    simpa using h

/-- What a turn does, in the session `s` on the machine `w`, if running commands has the given
    `effect`. -/
def turnEffect {η : Type} (effect : Session → η → String → List String → Effect η Status)
    (last : Status) (line : String) (s : Session) (w : η) : Effect η Status :=
  match Words.words? line with
  | .error e => ⟨.ok Status.badLine, s, w, e.message ++ "\n"⟩
  | .ok [] => ⟨.ok last, s, w, ""⟩
  | .ok (name :: operands) => effect s w name operands

variable {table : Table (ω × η)} {effect : Session → η → String → List String → Effect η Status}

/-- A turn yields its `turnEffect`, for any table whose commands yield theirs. -/
theorem turn_yields
    (ht : ∀ s w name words, (table.run name words).Yields s w (effect s w name words))
    (last : Status) (line : String) (s : Session) (w : η) :
    (table.turn last line).Yields s w (turnEffect effect last line s w) := by
  unfold Table.turn turnEffect
  cases Words.words? line with
  | error e =>
    -- The flush stands behind both of the acts that deal with the error.
    have hsay : (do
        Act.say [e.message, "\n"]
        return Status.badLine : Act (ω × η) Status).Yields s w
          ⟨.ok Status.badLine, s, w, e.message ++ "\n"⟩ := Act.Yields.say_pure (by simp) _
    have h := yields_flush hsay
    rw [bind_assoc] at h
    exact h
  | ok words =>
    cases words with
    | nil => exact (Act.Yields.note _).bind_silent (yields_flush (Act.Yields.pure last))
    | cons name operands =>
      exact (Act.Yields.note _).bind_silent (yields_flush (ht s w name operands))

/-- The `lastStatus` after a turn that ends with an answer: a fault leaves it alone. -/
def lastAfter (last : Status) : Except Fault Status → Status
  | .ok status => status
  | .error _ => last

/-- What `execute` does to a shell on a console in working order: the `turnEffect` of the line, and
    its answer is the new `lastStatus`. -/
theorem execute_yields
    (ht : ∀ s w name words, (table.run name words).Yields s w (effect s w name words))
    (line : String) {sh : Shell (ω × η)} (hsh : sh.Works) :
    let e := turnEffect effect sh.lastStatus line sh.scene.session sh.scene.stage.2
    ∃ o : ω, execute table line sh =
        (e.answer, ⟨⟨e.session, (o, e.machine)⟩, lastAfter sh.lastStatus e.answer⟩) ∧
      Console.Collects.Works o ∧ text o = sh.written ++ e.text := by
  intro e
  obtain ⟨o, hrun, ho, hout⟩ := turn_yields ht sh.lastStatus line sh.scene.session
    sh.scene.stage.2 sh.scene.stage.1 hsh
  refine ⟨o, ?_, ho, hout⟩
  unfold execute
  rw [hrun]
  show _ = (e.answer, _)
  -- Only a status is kept for the next turn.
  cases e.answer <;> rfl

/-- What `run` does to a shell on a console in working order: the `effect` of the name. -/
theorem run_yields
    (ht : ∀ s w name words, (table.run name words).Yields s w (effect s w name words))
    (name : String) (words : List String) {sh : Shell (ω × η)} (hsh : sh.Works) :
    let e := effect sh.scene.session sh.scene.stage.2 name words
    ∃ o : ω, run table name words sh =
        (e.answer, ⟨⟨e.session, (o, e.machine)⟩, sh.lastStatus⟩) ∧
      Console.Collects.Works o ∧ text o = sh.written ++ e.text := by
  intro e
  obtain ⟨o, hrun, ho, hout⟩ := ht sh.scene.session sh.scene.stage.2 name words
    sh.scene.stage.1 hsh
  refine ⟨o, ?_, ho, hout⟩
  unfold run
  rw [hrun]

/-- What `Table.standard` does with a name, to a shell on a console in working order. -/
theorem run_standard [Machine η] [Arguments.Reader] (name : String) (words : List String)
    {sh : Shell (ω × η)} (hsh : sh.Works) :
    let e := Table.standardEffect sh.scene.session sh.scene.stage.2 name words
    ∃ o : ω, run Table.standard name words sh =
        (e.answer, ⟨⟨e.session, (o, e.machine)⟩, sh.lastStatus⟩) ∧
      Console.Collects.Works o ∧ text o = sh.written ++ e.text := by
  have hstandard := @Table.standard_yields ω η _ _ _ _
  exact run_yields hstandard name words hsh

/-- What `Table.standard` does with a line, to a shell on a console in working order. -/
theorem execute_standard [Machine η] [Arguments.Reader] (line : String) {sh : Shell (ω × η)}
    (hsh : sh.Works) :
    let e := turnEffect Table.standardEffect sh.lastStatus line sh.scene.session sh.scene.stage.2
    ∃ o : ω, execute Table.standard line sh =
        (e.answer, ⟨⟨e.session, (o, e.machine)⟩, lastAfter sh.lastStatus e.answer⟩) ∧
      Console.Collects.Works o ∧ text o = sh.written ++ e.text := by
  have hstandard := @Table.standard_yields ω η _ _ _ _
  exact execute_yields hstandard line hsh

/-- A line does the same to shells that are `Alike`, and writes the same, whatever their consoles
    hold. -/
theorem execute_alike (ht : table.Blind) (line : String) {sh sh' : Shell (ω × η)}
    (h : sh.Alike sh') (hsh : sh.Works) (hsh' : sh'.Works) :
    ∃ out, (execute table line sh).1 = (execute table line sh').1 ∧
      (execute table line sh).2.Alike (execute table line sh').2 ∧
      (execute table line sh).2.Works ∧ (execute table line sh').2.Works ∧
      (execute table line sh).2.written = sh.written ++ out ∧
      (execute table line sh').2.written = sh'.written ++ out := by
  -- Both turns are told by the effect of one session and machine, which has no place for a console.
  obtain ⟨effect, ht⟩ := ht
  obtain ⟨o, hrun, ho, hout⟩ := execute_yields ht line hsh
  obtain ⟨o', hrun', ho', hout'⟩ := execute_yields ht line hsh'
  rw [h.session, h.machine, h.lastStatus] at hrun hout
  rw [hrun, hrun']
  exact ⟨_, rfl, ⟨rfl, rfl, rfl⟩, ho, ho', hout, hout'⟩

/-- Executing `line` in the session `s` on the machine `w` starts a child that is lost, for the
    reason `f`. -/
def LosesChild {η : Type} [Machine η] (line : String) (s : Session) (w : η) (f : Fault) : Prop :=
  ∃ name words, Words.words? line = .ok (name :: words) ∧ Table.LosesChild s w name words f

/-- What a line does with `Table.standard` ends with a status, or with the fault `f` for which its
    child is lost. -/
theorem turnEffect_answer {η : Type} [Machine η] (last : Status) (line : String) (s : Session)
    (w : η) :
    let e := turnEffect Table.standardEffect last line s w
    (∃ status, e.answer = .ok status) ∨
      ∃ f, LosesChild line s w f ∧ e.text = "" ∧ e.answer = .error f := by
  intro e
  show (∃ status, (turnEffect _ last line s w).answer = _) ∨ _
  unfold e turnEffect
  cases hline : Words.words? line with
  | error e => exact .inl ⟨_, rfl⟩
  | ok words =>
    cases words with
    | nil => exact .inl ⟨_, rfl⟩
    | cons name words =>
      -- only a command can lose a child
      obtain hstatus | ⟨f, hlost, htext, hanswer⟩ := Table.standardEffect_answer s w name words
      · exact .inl hstatus
      · exact .inr ⟨f, ⟨name, words, hline, hlost⟩, htext, hanswer⟩

end Working

/-! ### Where the lines end -/

section Finish

variable {σ : Type} [Console σ]

/-- The shell after `lines` have been executed in order. -/
def after (table : Table σ) (lines : List String) (sh : Shell σ) : Shell σ :=
  lines.foldl (fun sh line => (execute table line sh).2) sh

/-- How a turn ends the loop, if it does: by its fault, or by the `pendingExit` after it. -/
def halt? : Except Fault Status × Shell σ → Option (Except Fault Status)
  | (.error f, _) => some (.error f)
  | (.ok _, sh) => sh.scene.session.pendingExit.map .ok

/-- How the line with the number `n`, executed `after` the lines before it, ends the loop. -/
def stop? (table : Table σ) (lines : List String) (sh : Shell σ) (n : Nat) :
    Option (Except Fault Status) :=
  lines[n]?.bind fun line => halt? (execute table line (after table (lines.take n) sh))

/-- How executing the lines of a script in order ends: after how many lines, with which result, with
    what left of the script, and whether a line is asked for in vain. -/
inductive Finishes (table : Table σ) (script : Script) (sh : Shell σ) :
    Nat → Except Fault Status → Script → Bool → Prop
  /-- The first line to end the loop has the number `n`. -/
  | turn {n : Nat} {result : Except Fault Status}
      (before : ∀ m < n, stop? table script.lines sh m = none)
      (stops : stop? table script.lines sh n = some result) :
      Finishes table script sh (n + 1) result (script.dropLines (n + 1)) false
  /-- No line ends the loop. -/
  | input (never : ∀ n, stop? table script.lines sh n = none) :
      Finishes table script sh script.lines.length script.ending script.exhausted true

variable {table : Table σ} {script : Script} {sh : Shell σ} {line : String} {lines : List String}

theorem stop?_cons_zero :
    stop? table (line :: lines) sh 0 = halt? (execute table line sh) := rfl

theorem stop?_cons_succ (n : Nat) :
    stop? table (line :: lines) sh (n + 1) = stop? table lines (execute table line sh).2 n := rfl

omit [Console σ] in
private theorem lines_rest (hlines : script.lines = line :: lines) :
    (script.dropLines 1).lines = lines := by
  rw [Script.lines_dropLines, hlines, List.drop_succ_cons, List.drop_zero]

/-- A line with `halt? = none` puts off the ending of those after it. -/
theorem Finishes.cons {n : Nat} {result : Except Fault Status} {rest : Script} {again : Bool}
    (hlines : script.lines = line :: lines) (hgo : halt? (execute table line sh) = none)
    (h : Finishes table (script.dropLines 1) (execute table line sh).2 n result rest again) :
    Finishes table script sh (n + 1) result rest again := by
  -- Every number of a line goes up by one, and the new line 0 does not end the loop.
  have hrest := lines_rest hlines
  cases h with
  | @turn k _ before stops =>
    rw [← Script.dropLines_succ]
    rw [hrest] at before stops
    refine .turn (fun m hm => ?_) ?_
    · rw [hlines]
      cases m with
      | zero => rwa [stop?_cons_zero]
      | succ m =>
        rw [stop?_cons_succ]
        exact before m (Nat.lt_of_succ_lt_succ hm)
    · rwa [hlines, stop?_cons_succ]
  | input never =>
    rw [hrest] at never ⊢
    have h : Finishes table script sh _ _ _ true := .input fun n => ?_
    · rwa [hlines] at h
    · rw [hlines]
      cases n with
      | zero => rwa [stop?_cons_zero]
      | succ n => rw [stop?_cons_succ, never n]

end Finish

/-! ### What lines write -/

section Writing

variable {ω η : Type} [Console ω] [Console.Collects ω]

/-- What lines write that are executed in order: `outs` has the text of each line on its own. -/
inductive Writes (table : Table (ω × η)) : List String → Shell (ω × η) → List String → Prop
  | nil (sh : Shell (ω × η)) : Writes table [] sh []
  | cons {line out : String} {lines outs : List String} {sh : Shell (ω × η)}
      (first : (execute table line sh).2.written = sh.written ++ out)
      (others : Writes table lines (execute table line sh).2 outs) :
      Writes table (line :: lines) sh (out :: outs)

/-- The first `n` lines write the first `n` texts. -/
theorem Writes.take {table : Table (ω × η)} {lines outs : List String} {sh : Shell (ω × η)}
    (h : Writes table lines sh outs) (n : Nat) : Writes table (lines.take n) sh (outs.take n) := by
  induction h generalizing n with
  | nil sh => simpa using .nil sh
  | cons first others ih =>
    cases n with
    | zero => exact .nil _
    | succ n => exact .cons first (ih n)

end Writing

end Shell

end LineShell
