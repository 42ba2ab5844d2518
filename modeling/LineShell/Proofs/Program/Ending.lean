import LineShell.Program.Run
import LineShell.Proofs.Shell.Endings

/-! # How the program ends

A turn that ends the loop with a status ends the program with a code, the remainder of the status
by 256, unless a signal has ended it before.  All that was written has been passed on by then, so
that the last flush of the program does nothing.

* `Status.code_eq`            the code of a status
* `Program.rounds_of_halt`    a round whose turn ends the loop with a status is the last one -/

namespace LineShell

/-- The `code` of a status is its remainder by 256, which is no less than 0 for any status. -/
theorem Status.code_eq (status : Status) :
    (status.code : Int) = status % 256 ∧ status.code < 256 := by
  have hnonneg : 0 ≤ status % 256 := Int.emod_nonneg status (by decide)
  have hlt : status % 256 < 256 := Int.emod_lt_of_pos status (by decide)
  have hcode : (status.code : Int) = status % 256 := Int.toNat_of_nonneg hnonneg
  refine ⟨hcode, ?_⟩
  omega

/-! ### What is held back -/

namespace Terminal

/-- What the log does to a terminal changes neither `pending`, what is held back, nor `pause`, what
    is waited for. -/
structure Spares (t t' : Terminal) : Prop where
  pending : t'.pending = t.pending
  pause : t'.pause = t.pause

theorem Spares.refl (t : Terminal) : t.Spares t := ⟨rfl, rfl⟩

/-- To `hear` a signal changes neither of the two. -/
theorem spares_hear (t : Terminal) (signal : Nat) : t.Spares (t.hear signal) := by
  unfold hear
  split
  · exact .refl t
  · split <;> exact ⟨rfl, rfl⟩

/-- Nor does `writeTo` a descriptor. -/
theorem spares_writeTo (t : Terminal) (fd : Nat) (text : String) :
    t.Spares (t.writeTo fd text).2 := by
  unfold writeTo
  split
  · exact .refl t
  · dsimp only
    split
    · split
      · exact ⟨rfl, rfl⟩
      · rename_i world _ _
        -- The file is too large: a signal is all that comes of it.
        have hspares := spares_hear { t with world } Signal.fileTooLarge
        exact ⟨hspares.pending, hspares.pause⟩
    · exact .refl t
    · exact .refl t

/-- Nor does a record in the log, which is written by `writeTo` if it is at all. -/
theorem spares_log (r : Record) (t : Terminal) : t.Spares (Console.log r t) := by
  show t.Spares (log r t)
  -- What is said of a record goes to the descriptor for complaints, if it is said at all.
  unfold log complain
  split
  · split
    · exact .refl t
    · exact spares_writeTo t 2 _
  · exact .refl t

/-- After a flush that went well nothing is `pending`. -/
theorem pending_of_flush {t t' : Terminal} (h : Console.flush t = (.ok (), t')) :
    t'.pending = "" := by
  have h : t.flush = (.ok (), t') := h
  unfold flush at h
  split at h
  · obtain ⟨-, rfl⟩ := Prod.mk.inj h
    rfl
  · cases h

/-- If nothing is `pending` a flush does nothing. -/
theorem flush_of_pending {t : Terminal} (h : t.pending = "") : t.flush.2 = t := by
  unfold flush
  rw [h, deliver, if_pos (by simp)]
  cases t
  cases h
  rfl

end Terminal

namespace Shell

/-- Behind a turn that ends with a status nothing is `pending`: the flush at its end went well. -/
theorem Turn.pending_after {t : Turn Terminal} {status : Status} (h : t.result = .ok status) :
    t.after.scene.stage.pending = "" := by
  rw [result, execute_eq] at h
  rw [after, execute_eq]
  -- Only the flush at the end of the turn matters, and it went well.
  generalize obey Table.standard t.line t.sh = obeyed at h ⊢
  obtain ⟨f | status', sh'⟩ := obeyed
  · cases h
  · rw [conclude] at h ⊢
    rcases hflush : Console.flush sh'.scene.stage with ⟨f | ⟨⟩, stage⟩
    · rw [hflush] at h
      cases h
    · exact Terminal.pending_of_flush hflush

end Shell

namespace Program

open Shell

/-- If nothing is `pending` and no signal has `killed` it, the program ends with its code. -/
theorem finish_of_pending {t : Terminal} (hpending : t.pending = "") (hlives : t.killed = none)
    (code : Nat) : finish code (.ok (), t) = .ended (.exited code) t.world := by
  unfold finish
  dsimp only
  rw [Terminal.flush_of_pending hpending, hlives]

/-- A round in which the shell has not had to wait, and which ends the loop with a status, is the
    last of `rounds`. -/
private theorem rounds_of_round {prompt : String} {source source' : Input}
    {sh sh' : Shell Terminal} {returns : List World} {status : Status}
    (hround : round Table.standard prompt source (sh.withStage { sh.scene.stage with returns }) =
      (some (.ok status), source', sh'))
    (hpause : sh'.scene.stage.pause = none) (n : Nat) :
    rounds prompt sh source returns (n + 1) = finish status.code (.ok (), sh'.scene.stage) := by
  rw [rounds, hround]
  dsimp only
  rw [hpause]

/-- A round whose turn ends the loop with a status is the last one of the program, which ends with
    the `code` of that status.  This holds of any round, whatever has happened before. -/
theorem rounds_of_halt {prompt : String} {source : Input} {sh : Shell Terminal}
    {returns : List World} {t : Turn Terminal} {status : Status}
    (hturn : turn? prompt source (sh.withStage { sh.scene.stage with returns }) = some t)
    (hhalt : t.halt? = some (.ok status)) (hpause : t.after.scene.stage.pause = none)
    (hlives : (Console.log (.exiting status) t.after.scene.stage).killed = none) (n : Nat) :
    rounds prompt sh source returns (n + 1) = .ended (.exited status.code)
      (Console.log (.exiting status) t.after.scene.stage).world := by
  let final := Console.log (.exiting status) t.after.scene.stage
  obtain ⟨⟨last, hresult⟩, hpending⟩ := Turn.halt?_eq_ok_iff.mp hhalt
  -- The log notes the exit behind the turn, and that leaves nothing to be flushed.
  have hspares : t.after.scene.stage.Spares final := Terminal.spares_log _ _
  have hwaits : final.pause = none := hspares.pause.trans hpause
  have hheld : final.pending = "" := hspares.pending.trans (Turn.pending_after hresult)
  obtain ⟨source', -, hround⟩ := round_of_turn? hturn
  rw [hhalt] at hround
  rw [rounds_of_round hround hwaits]
  exact finish_of_pending hheld hlives status.code

end Program

end LineShell
