import LineShell.Proofs.Shell.Faults
import LineShell.Proofs.Shell.Sequence
import LineShell.Proofs.Shell.Spawning

/-! # How the loop ends

The loop asks its source for lines and takes a turn for each, and every turn but the last one goes
on.  It ends in one of three ways: the source fails, it has no more lines, or a turn ends the loop,
by a fault or by the exit that is pending behind it.

* `round_of_turn?`      a round that gets a line takes a turn
* `round_cases`         what a round asks for, and what becomes of it
* `loop_halts`          how the loop ends, told by its turns and by what the source answers
* `loop_of_mem_turns`   a turn that ends the loop tells its result
* `Turn.exits_of_asked` a turn that asks for the exit ends the loop with what it ends with itself -/

namespace LineShell.Shell

variable {σ ρ : Type} [Console σ] [LineSource ρ σ]

/-- What the source answers to `loop`, in order. -/
def answers (table : Table σ) (prompt : String) (source : ρ) (sh : Shell σ) :
    List (Except Fault (Option String)) :=
  (LineSource.read prompt source sh.scene.stage).1 ::
    match _h : round table prompt source sh with
    | (some _, _, _) => []
    | (none, source', sh') => answers table prompt source' sh'
termination_by LineSource.size σ source
decreasing_by exact size_round _h

section

variable {table : Table σ} {prompt : String} {source source' : ρ} {sh sh' : Shell σ}

/-- The last round has the last answer. -/
theorem answers_of_round_eq_some {result : Except Fault Status}
    (h : round table prompt source sh = (some result, source', sh')) :
    answers table prompt source sh = [(LineSource.read prompt source sh.scene.stage).1] := by
  unfold answers
  split
  · rfl
  · rename_i heq
    rw [h] at heq
    cases heq

/-- The answer in a round that is not the last one comes before the others. -/
theorem answers_of_round_eq_none (h : round table prompt source sh = (none, source', sh')) :
    answers table prompt source sh =
      (LineSource.read prompt source sh.scene.stage).1 ::
        answers table prompt source' sh' := by
  conv => lhs; unfold answers
  split
  · rename_i heq
    rw [h] at heq
    cases heq
  · rename_i heq
    rw [h] at heq
    cases heq
    rfl

end

omit [Console σ] in
/-- The turn of a line that the source answers with. -/
theorem turn?_of_answer {prompt line : String} {source : ρ} {sh : Shell σ}
    (h : (LineSource.read prompt source sh.scene.stage).1.toOption = some (some line)) :
    turn? prompt source sh =
      some ⟨line, sh.withStage (LineSource.read prompt source sh.scene.stage).2.2⟩ := by
  unfold turn?
  generalize LineSource.read prompt source sh.scene.stage = read at h ⊢
  obtain ⟨f | line', source', stage⟩ := read
  · cases h
  · obtain rfl : line' = some line := Option.some.inj h
    rfl

/-- The first turn of the loop is among its `turns`. -/
theorem mem_turns_of_turn? {table : Table σ} {prompt : String} {source : ρ} {sh : Shell σ}
    {t : Turn σ} (h : turn? prompt source sh = some t) : t ∈ turns table prompt source sh := by
  unfold turns
  rw [h]
  exact List.mem_append_left _ (List.mem_singleton_self t)

variable [Machine σ]

/-- How a turn ends the loop, if it does. -/
def Turn.halt? (t : Turn σ) : Option (Except Fault Status) :=
  Shell.halt? (execute Table.standard t.line t.sh)

omit [LineSource ρ σ] in
/-- A turn ends the loop with a fault if that is its own `result`. -/
theorem Turn.halt?_eq_error_iff {t : Turn σ} {f : Fault} :
    t.halt? = some (.error f) ↔ t.result = .error f := by
  rw [halt?, result]
  rcases execute Table.standard t.line t.sh with ⟨f' | status, sh'⟩ <;> simp [Shell.halt?]

omit [LineSource ρ σ] in
/-- A turn ends the loop with a status if it has no fault and the status is that of the exit which
    is pending behind it. -/
theorem Turn.halt?_eq_ok_iff {t : Turn σ} {code : Status} :
    t.halt? = some (.ok code) ↔
      (∃ status, t.result = .ok status) ∧ t.after.scene.session.pendingExit = some code := by
  rw [halt?, result, after]
  rcases execute Table.standard t.line t.sh with ⟨f | status, sh'⟩ <;> simp [Shell.halt?]

/-- A round that gets a line takes a turn, which may end the loop as `Turn.halt?` says; an exit is
    noted. -/
theorem round_of_turn? {prompt : String} {source : ρ} {sh : Shell σ} {t : Turn σ}
    (h : turn? prompt source sh = some t) :
    ∃ source', (LineSource.read prompt source sh.scene.stage).1 = .ok (some t.line) ∧
      round Table.standard prompt source sh = (t.halt?, source',
        match t.halt? with
        | some (.ok status) => t.after.note (.exiting status)
        | _ => t.after) := by
  unfold turn? at h
  unfold round Turn.halt? Turn.after
  split at h
  · rename_i line source' stage hread
    obtain rfl := Option.some.inj h
    rw [hread]
    refine ⟨source', rfl, ?_⟩
    dsimp only
    -- A fault ends the loop, and so does an exit that is pending; the exit is noted.
    rcases execute Table.standard line (sh.withStage stage) with ⟨f | status, sh'⟩
    · rfl
    · dsimp only [Shell.halt?]
      cases sh'.scene.session.pendingExit <;> rfl
  · cases h

/-- A round asks for a line.  The source fails, or it has no more lines, or there is a turn: all
    that a round can do. -/
theorem round_cases (prompt : String) (source : ρ) (sh : Shell σ) :
    let answer := (LineSource.read prompt source sh.scene.stage).1
    let halt := (round Table.standard prompt source sh).1
    (∃ f, answer = .error f ∧ turn? prompt source sh = none ∧ halt = some (.error f)) ∨
      (answer = .ok none ∧ turn? prompt source sh = none ∧ halt = some (.ok 0)) ∨
      ∃ t, answer = .ok (some t.line) ∧ turn? prompt source sh = some t ∧ halt = t.halt? := by
  intro answer halt
  cases hturn : turn? prompt source sh with
  | some t =>
    obtain ⟨source', hanswer, hround⟩ := round_of_turn? hturn
    exact .inr (.inr ⟨t, hanswer, rfl, congrArg Prod.fst hround⟩)
  | none =>
    unfold turn? at hturn
    unfold answer halt round
    rcases hread : LineSource.read prompt source sh.scene.stage with ⟨f | ⟨⟩ | line, source', stage⟩
    · exact .inl ⟨f, rfl, rfl, rfl⟩
    · exact .inr (.inl ⟨rfl, rfl, rfl⟩)
    · rw [hread] at hturn
      cases hturn

/-- How the loop ends behind turns that did not end it: the turns that it has taken, what the source
    answered last, and the result. -/
inductive Halts (before : List (Turn σ)) :
    List (Turn σ) → Except Fault (Option String) → Except Fault Status → Prop
  | unreadable (f : Fault) : Halts before before (.error f) (.error f)
  | exhausted : Halts before before (.ok none) (.ok 0)
  | turn {t : Turn σ} {result : Except Fault Status} (h : t.halt? = some result) :
      Halts before (before ++ [t]) (.ok (some t.line)) result

omit [LineSource ρ σ] in
/-- One more turn in front that went on. -/
theorem Halts.cons {before taken : List (Turn σ)} {last : Except Fault (Option String)}
    {result : Except Fault Status} (t : Turn σ) (h : Halts before taken last result) :
    Halts (t :: before) (t :: taken) last result := by
  cases h with
  | unreadable f => exact .unreadable f
  | exhausted => exact .exhausted
  | turn h => exact .turn h

/-- How the loop ends: it `Halts` behind the turns that went on.  The source has answered with the
    lines of these, and with what it answered last. -/
theorem loop_halts (prompt : String) (source : ρ) (sh : Shell σ) :
    ∃ before last,
      Halts before (turns Table.standard prompt source sh) last
        (loop Table.standard prompt source sh).1 ∧
      (∀ t ∈ before, t.halt? = none) ∧
      answers Table.standard prompt source sh =
        before.map (fun t => .ok (some t.line)) ++ [last] := by
  fun_induction Shell.loop Table.standard prompt source sh with
  | case1 source sh result source' sh' hround =>
    -- This round is the last one, so no turn is behind it.
    rw [turns_of_round_eq_some hround, answers_of_round_eq_some hround]
    have hcases := round_cases prompt source sh
    rw [hround] at hcases
    refine ⟨[], _, ?_, by simp, rfl⟩
    obtain ⟨f, hanswer, hturn, hhalt⟩ | ⟨hanswer, hturn, hhalt⟩ | ⟨t, hanswer, hturn, hhalt⟩ :=
      hcases
    · obtain rfl := Option.some.inj hhalt
      rw [hanswer, hturn]
      exact .unreadable f
    · obtain rfl := Option.some.inj hhalt
      rw [hanswer, hturn]
      exact .exhausted
    · rw [hanswer, hturn]
      exact .turn hhalt.symm
  | case2 source sh source' sh' hround ih =>
    obtain ⟨before, last, hhalts, hgo, hanswers⟩ := ih
    rw [turns_of_round_eq_none hround, answers_of_round_eq_none hround]
    have hcases := round_cases prompt source sh
    rw [hround] at hcases
    -- A round behind which the loop goes on has taken a turn.
    obtain ⟨f, -, -, hhalt⟩ | ⟨-, -, hhalt⟩ | ⟨t, hanswer, hturn, hhalt⟩ := hcases
    · cases hhalt
    · cases hhalt
    · rw [hturn, hanswer, hanswers]
      refine ⟨t :: before, last, hhalts.cons t, ?_, rfl⟩
      exact List.forall_mem_cons.mpr ⟨hhalt.symm, hgo⟩

/-- A turn that ends the loop tells its result, since all turns but the last one have gone on. -/
theorem loop_of_mem_turns {prompt : String} {source : ρ} {sh : Shell σ} {t : Turn σ}
    {result : Except Fault Status} (ht : t ∈ turns Table.standard prompt source sh)
    (h : t.halt? = some result) : (loop Table.standard prompt source sh).1 = result := by
  obtain ⟨before, last, hhalts, hgo, -⟩ := loop_halts prompt source sh
  -- All turns but the last one have gone on.
  have hlater : t ∉ before := by
    intro hbefore
    rw [hgo t hbefore] at h
    cases h
  -- The turns and the result are indices of `Halts`, and have to be variables for the cases.
  generalize turns Table.standard prompt source sh = taken at ht hhalts
  generalize (loop Table.standard prompt source sh).1 = ended at hhalts ⊢
  cases hhalts with
  | unreadable f => exact absurd ht hlater
  | exhausted => exact absurd ht hlater
  | @turn t' result' h' =>
    obtain hbefore | hlast := List.mem_append.mp ht
    · exact absurd hbefore hlater
    · obtain rfl := List.mem_singleton.mp hlast
      exact Option.some.inj (h'.symm.trans h)

/-! ### Turns that ask for the exit -/

omit [LineSource ρ σ] in
/-- A turn that asks for the exit has nothing left to do but its last flush, which is that of
    `conclude`. -/
theorem execute_of_asked {line : String} {words : List String} {status : Status}
    (hline : Words.words? line = .ok ("exit" :: words)) (h : status.Asked words) (sh : Shell σ) :
    execute Table.standard line sh =
      conclude (.ok status, ⟨⟨{ sh.scene.session with pendingExit := some status },
        Console.log (.dispatch "exit" words)
          (Console.log (.words line ("exit" :: words)) sh.scene.stage)⟩, sh.lastStatus⟩) := by
  let noted := sh.note (.words line ("exit" :: words))
  have hrun := Table.run_builtin .exit words noted.scene
  rw [Builtin.answer_of_asked h, Answer.deliver_silent] at hrun
  rw [execute_eq, obey, hline]
  dsimp only
  rw [run]
  exact congrArg (fun ran => conclude (ran.1, (⟨ran.2, sh.lastStatus⟩ : Shell σ))) hrun

omit [LineSource ρ σ] in
/-- Nothing happens in a turn that asks for the exit but one flush.  If it goes well the turn ends
    with the status, and the loop ends with what the turn ends with.  Either way the exit is pending
    behind it. -/
theorem Turn.exits_of_asked {t : Turn σ} {words : List String} {status : Status}
    (hline : Words.words? t.line = .ok ("exit" :: words)) (h : status.Asked words) :
    ∃ made, t.events = [.flush made] ∧ t.result = made.map (fun () => status) ∧
      t.halt? = some t.result ∧
      t.after.scene.session = { t.sh.scene.session with pendingExit := some status } := by
  let stage := Console.log (.dispatch "exit" words)
    (Console.log (.words t.line ("exit" :: words)) t.sh.scene.stage)
  have hturn := execute_of_asked hline h t.sh
  have hwatched := execute_of_asked hline h (t.sh.watch [])
  -- What the log is told is no event.
  have hlogged : Console.log (.dispatch "exit" words)
      (Console.log (.words t.line ("exit" :: words)) (t.sh.watch []).scene.stage) =
        ⟨stage, []⟩ := rfl
  have hflush : Console.flush (⟨stage, []⟩ : Watched σ) =
      ((Console.flush stage).1, ⟨(Console.flush stage).2, [.flush (Console.flush stage).1]⟩) := rfl
  refine ⟨(Console.flush stage).1, ?_, ?_⟩
  · -- what a watched turn records
    rw [events, hwatched, hlogged, conclude]
    dsimp only
    rw [hflush]
    rcases Console.flush stage with ⟨f | ⟨⟩, stage'⟩ <;> rfl
  · -- what the turn ends with, and the session that it leaves
    rw [halt?, result, after, hturn, conclude]
    dsimp only
    rcases Console.flush stage with ⟨f | ⟨⟩, stage'⟩
    · exact ⟨rfl, rfl, rfl⟩
    · exact ⟨rfl, rfl, rfl⟩

end LineShell.Shell
