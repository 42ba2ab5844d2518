import LineShell.Proofs.Shell.Endings

/-! # Which faults end the loop

The loop ends with a fault if its source fails, and as well if a turn does: a turn fails if one of
its writes or flushes does, or if its child is lost.  So the fault of the output may take the place of
a status even where a turn has asked for the exit, if the last flush of that turn fails.

* `fault_ends_loop`       the faults of a run of the shell are those of its source and of its turns
* `exit_lost_in_flush`    a run that ends with a fault though every line was read and `exit` was
                          obeyed -/

namespace LineShell.Shell

section

variable {σ ρ : Type} [Console σ] [Machine σ] [LineSource ρ σ]

/-- The loop ends with `.error f` if that is among the `answers` of its source, or what one of its
    turns ends with. -/
theorem loop_eq_error_iff (prompt : String) (source : ρ) (sh : Shell σ) (f : Fault) :
    (loop Table.standard prompt source sh).1 = .error f ↔
      .error f ∈ answers Table.standard prompt source sh ∨
        ∃ t ∈ turns Table.standard prompt source sh, t.result = .error f := by
  constructor
  · -- the loop has ended with a fault
    intro hresult
    obtain ⟨before, last, hhalts, -, hanswers⟩ := loop_halts prompt source sh
    rw [hanswers]
    rw [hresult] at hhalts
    generalize turns Table.standard prompt source sh = taken at hhalts ⊢
    cases hhalts with
    | unreadable => exact .inl (by simp)
    | @turn t _ h => exact .inr ⟨t, by simp, Turn.halt?_eq_error_iff.mp h⟩
  · rintro (hanswer | ⟨t, ht, hfault⟩)
    · obtain ⟨before, last, hhalts, -, hanswers⟩ := loop_halts prompt source sh
      rw [hanswers] at hanswer
      -- The answers before the last one are the lines of turns.
      obtain rfl : .error f = last := by simpa using hanswer
      generalize (loop Table.standard prompt source sh).1 = result at hhalts ⊢
      generalize turns Table.standard prompt source sh = taken at hhalts
      cases hhalts with
      | unreadable => rfl
    · exact loop_of_mem_turns ht (Turn.halt?_eq_error_iff.mpr hfault)

end

/-- The faults that end the loop, for a shell with `Table.standard` after whatever calls, on
    whatever console.  The loop ends with a fault `f` exactly if its source answers with it or one
    of its turns ends with it, which is the fault of a write, of a flush or of a lost child then
    (`Event.HasFault`).  A turn that asks for the exit does nothing but its last flush: the loop
    ends with the status that is asked for if the flush goes well, and with its fault if it does
    not, though the exit is pending all the same. -/
theorem fault_ends_loop (initial : Session) {σ₀ : Type} [Console σ₀] [Machine σ₀] (stage₀ : σ₀)
    (history : List Step) {σ ρ : Type} [Console σ] [Machine σ] [LineSource ρ σ] (stage : σ)
    (prompt : String) (source : ρ) :
    let m := (start Table.standard initial stage₀).memory.after history
    let sh : Shell σ := ⟨⟨m.session, stage⟩, m.lastStatus⟩
    let begun := sh.note (.started sh.scene.session.dir)
    let result := (repl Table.standard prompt source sh).1
    let taken := turns Table.standard prompt source begun
    (∀ f, result = .error f ↔
      .error f ∈ answers Table.standard prompt source begun ∨ ∃ t ∈ taken, t.result = .error f) ∧
    (∀ t ∈ taken, ∀ f, t.result = .error f → ∃ e ∈ t.events, e.HasFault f) ∧
    ∀ t ∈ taken, ∀ words status, Words.words? t.line = .ok ("exit" :: words) →
      Status.Asked words status →
        ∃ made, t.events = [.flush made] ∧ result = made.map (fun () => status) ∧
          t.after.scene.session.pendingExit = some status := by
  intro m sh begun result taken
  have hkept : (start Table.standard initial stage₀).scene.session.Kept sh.scene.session :=
    Memory.kept_after history (start Table.standard initial stage₀).memory
  have hknows : sh.scene.session.KnowsBuiltins := hkept.knowsBuiltins rfl
  refine ⟨loop_eq_error_iff prompt source begun, fun t ht f hfault => ?_, ?_⟩
  · -- The names of the builtins are the same in every turn, so each one is `Disciplined`.
    have hturn : begun.scene.session.Kept t.sh.scene.session := kept_of_mem_turns ht
    exact (t.disciplined (hturn.knowsBuiltins hknows)).fault f hfault
  · -- a turn that asks for the exit is the last one, however its flush goes
    intro t ht words status hline hasked
    obtain ⟨made, hevents, hmade, hhalt, hsession⟩ := Turn.exits_of_asked hline hasked
    have hresult : result = t.result := loop_of_mem_turns ht hhalt
    refine ⟨made, hevents, hresult.trans hmade, ?_⟩
    rw [hsession]

/-- An `exit` on a console of which every write fails: the flush goes well, so the loop ends with
    the status. -/
theorem fault_ends_loop_broken :
    let stage : Sink × Catalog := ({ mode := .broken }, {})
    let sh : Shell (Sink × Catalog) := start Table.standard { dir := "/" } stage
    let source : ScriptApart Sink := ⟨{ bytes := "exit 3\n".toUTF8.toList }, {}⟩
    Words.words? "exit 3" = .ok ["exit", "3"] ∧ Status.Asked ["3"] 3 ∧
      (repl Table.standard "$ " source sh).1 = .ok 3 := by
  intro stage sh source
  let t : Turn (Sink × Catalog) := ⟨"exit 3", sh.note (.started "/")⟩
  have hline : Words.words? "exit 3" = .ok ["exit", "3"] := rfl
  have hasked : Status.Asked ["3"] 3 := .inr ⟨"3", rfl, by decide⟩
  have hturn : turn? "$ " source (sh.note (.started "/")) = some t :=
    turn?_of_answer (by decide +kernel)
  have hok : t.result.toOption = some 3 := by decide +kernel
  obtain ⟨-, -, hexit⟩ := fault_ends_loop { dir := "/" } stage [] stage "$ " source
  obtain ⟨made, hevents, hresult, -⟩ := hexit t (mem_turns_of_turn? hturn) _ _ hline hasked
  obtain ⟨made', hevents', hmade, -⟩ := Turn.exits_of_asked (t := t) hline hasked
  -- Both name the one flush of the turn, and the turn has a status.
  obtain rfl : made' = made :=
    Event.flush.inj (List.singleton_inj.mp (hevents'.symm.trans hevents))
  obtain f | ⟨⟩ := made'
  · rw [hmade] at hok
    cases hok
  · exact ⟨hline, hasked, hresult⟩

/-- An `exit` on a console that cannot be flushed: every line that is asked for is read, the exit is
    pending, and the loop ends with the fault of the flush. -/
theorem exit_lost_in_flush :
    let sh : Shell (Sink × Catalog) :=
      start Table.standard { dir := "/" } ({ mode := .noflush }, {})
    let source : ScriptApart Sink := ⟨{ bytes := "exit 3\n".toUTF8.toList }, {}⟩
    let begun := sh.note (.started "/")
    (repl Table.standard "$ " source sh).1 = .error (.stream "flush failed") ∧
      answers Table.standard "$ " source begun = [.ok (some "exit 3")] ∧
      Words.words? "exit 3" = .ok ["exit", "3"] ∧ Status.Asked ["3"] 3 := by
  intro sh source begun
  let t : Turn (Sink × Catalog) := ⟨"exit 3", begun⟩
  have hline : Words.words? "exit 3" = .ok ["exit", "3"] := rfl
  have hasked : Status.Asked ["3"] 3 := .inr ⟨"3", rfl, by decide⟩
  have hturn : turn? "$ " source begun = some t := turn?_of_answer (by decide +kernel)
  have hhalt : t.halt? = some (.error (.stream "flush failed")) := by
    rw [Turn.halt?, execute_of_asked hline hasked]
    rfl
  obtain ⟨source', hanswer, hround⟩ := round_of_turn? hturn
  rw [hhalt] at hround
  refine ⟨loop_of_mem_turns (mem_turns_of_turn? hturn) hhalt, ?_, hline, hasked⟩
  rw [answers_of_round_eq_some hround, hanswer]

end LineShell.Shell
