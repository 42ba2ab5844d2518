import LineShell.Console.Sink
import LineShell.Machine.Host
import LineShell.Proofs.Program.Ending
import LineShell.Proofs.Shell.Operands
import LineShell.Proofs.Text.Numeral

/-! # From the word of an `exit` to the code of the program

The word behind `exit` is a status if it is a decimal numeral of a number of 32 bits with a sign.
That status is pending in the session then, it is the result of the loop, and its remainder by 256
is the code of the program.

* `Status.ofWord?_eq_some_iff`   a word is a status if the grammar says so
* `Shell.exit_serves`            what `exit` does with such a word
* `Shell.exit_codes`             the way of the status to the code of the program -/

namespace LineShell

/-- A status is a number of 32 bits with a sign: one from `-2³¹` to `2³¹ - 1`. -/
structure Status.Fits (status : Status) : Prop where
  least : -0x80000000 ≤ status
  most : status < 0x80000000

/-- The word is a `Text.Numeral` of a number that `Fits`. -/
structure Status.Written (word : String) (status : Status) : Prop where
  numeral : Text.Numeral word status
  fits : status.Fits

namespace Status

variable {word : String} {status : Status}

/-- A word is a status if the grammar of `Text.Numeral` says so and the number is not too large or
    too small. -/
theorem ofWord?_eq_some_iff : ofWord? word = some status ↔ Written word status := by
  rw [ofWord?, Option.filter_eq_some_iff, Text.integer?_eq_some_iff]
  constructor
  · rintro ⟨hnumeral, hrange⟩
    simp only [Bool.and_eq_true, decide_eq_true_eq] at hrange
    exact ⟨hnumeral, hrange.1, hrange.2⟩
  · rintro ⟨hnumeral, hleast, hmost⟩
    refine ⟨hnumeral, ?_⟩
    simp only [Bool.and_eq_true, decide_eq_true_eq]
    exact ⟨hleast, hmost⟩

/-- A word that is no numeral of a number that fits is no status. -/
theorem ofWord?_eq_none (h : ∀ status, ¬Written word status) : ofWord? word = none := by
  rw [Option.eq_none_iff_forall_ne_some]
  intro status hstatus
  exact h status (ofWord?_eq_some_iff.mp hstatus)

/-- An `exit` with a word that is a status asks for it. -/
theorem Written.asked (h : Written word status) : status.Asked [word] :=
  .inr ⟨word, rfl, ofWord?_eq_some_iff.mpr h⟩

end Status

namespace Shell

section

variable {ω η : Type} [Console ω] [Console.Collects ω] [Machine η] {sh : Shell (ω × η)}

/-- An `exit` with a word that is a status asks for it, in silence. -/
theorem exit_serves (hsh : sh.Works) {word : String} {status : Status}
    (h : status.Written word) :
    sh.Serves "exit" [word] status { sh.scene.session with pendingExit := some status } "" := by
  have hword := Status.ofWord?_eq_some_iff.mpr h
  exact serves_of_effect hsh (Builtin.Does.exit hword).standardEffect

/-- An `exit` with any other word says so, and leaves the session alone. -/
theorem exit_refuses (hsh : sh.Works) {word : String} (h : ∀ status, ¬Status.Written word status) :
    sh.Serves "exit" [word] 1 sh.scene.session
      ("exit: " ++ word ++ ": numeric argument required\n") := by
  have hword := Status.ofWord?_eq_none h
  exact serves_of_effect hsh (Builtin.Does.exit_refused hword).standardEffect

end

/-- A turn whose line runs `exit` with a word that is a status ends the loop with it, unless its
    last flush fails. -/
theorem halt?_of_written {σ : Type} [Console σ] [Machine σ] {t : Turn σ} {word : String}
    {status last : Status} (hline : Words.words? t.line = .ok ["exit", word])
    (h : status.Written word) (hresult : t.result = .ok last) :
    t.halt? = some (.ok status) := by
  obtain ⟨made, -, hmade, hhalt, -⟩ := Turn.exits_of_asked hline h.asked
  obtain f | ⟨⟩ := made
  · exact nomatch hmade.symm.trans hresult
  · rw [hhalt, hmade]
    rfl

/-- The way of a status.  A word is one exactly if it is a decimal numeral, after at most one sign,
    of a number that `Fits`; then `exit` asks for that status and ends with it, and every other word
    is refused and leaves the session alone.  The decimal text of each number that fits is such a
    word.  The loop ends with the status if its turn is taken on a console in working order, and the
    program, in whatever state it is, ends with the remainder of the status by 256 if nothing has
    failed in the turn and no signal ends it. -/
theorem exit_codes {ω η : Type} [Console ω] [Console.Collects ω] [Machine η] {sh : Shell (ω × η)}
    (hsh : sh.Works) :
    let s := sh.scene.session
    (∀ word v, sh.Serves "exit" [word] v { s with pendingExit := some v } "" ↔
      Status.Written word v) ∧
    (∀ word, (∀ v, ¬Status.Written word v) →
      sh.Serves "exit" [word] 1 s ("exit: " ++ word ++ ": numeric argument required\n")) ∧
    (∀ v : Status, v.Fits →
      sh.Serves "exit" [toString v] v { s with pendingExit := some v } "") ∧
    (∀ {ρ : Type} [LineSource ρ (ω × η)] (prompt : String) (source : ρ),
      ∀ t ∈ turns Table.standard prompt source (sh.note (.started s.dir)), t.sh.Works →
      ∀ word v, Words.words? t.line = .ok ["exit", word] → Status.Written word v →
        (repl Table.standard prompt source sh).1 = .ok v) ∧
    ∀ (prompt : String) (source : Input) (running : Shell Terminal) (returns : List World),
      ∀ t ∈ turn? prompt source (running.withStage { running.scene.stage with returns }),
      ∀ word v, Words.words? t.line = .ok ["exit", word] → Status.Written word v →
        (∃ status, t.result = .ok status) → t.after.scene.stage.pause = none →
        (Console.log (.exiting v) t.after.scene.stage).killed = none →
        ∀ n, ∃ (code : Nat) (world : World),
          Program.rounds prompt running source returns (n + 1) = .ended (.exited code) world ∧
            code < 256 ∧ (code : Int) = v % 256 := by
  intro s
  refine ⟨fun word v => ⟨fun hserves => ?_, exit_serves hsh⟩, fun word => exit_refuses hsh,
    fun v hv => exit_serves hsh ⟨Text.numeral_toString v, hv⟩, ?_, ?_⟩
  · -- no other word is taken for a status, and no other status is asked for
    by_cases hword : ∃ v', Status.Written word v'
    · obtain ⟨v', hv'⟩ := hword
      have hresult := (exit_serves hsh hv').leaves.result.symm.trans hserves.leaves.result
      obtain rfl := Except.ok.inj hresult
      exact hv'
    · have hwritten := (exit_refuses hsh (not_exists.mp hword)).leaves.written
      -- The text of the refusal is not empty, so the word was not refused.
      have htext := (String.append_right_inj _).mp (hserves.leaves.written.symm.trans hwritten)
      exact absurd htext (by simp)
  · -- the result of the loop
    intro ρ _ prompt source t ht hworks word v hline hv
    have hresult : t.result = .ok v := ((exit_serves hworks hv).ends t.line hline).result
    exact loop_of_mem_turns ht (halt?_of_written hline hv hresult)
  · -- the code of the program
    intro prompt source running returns t ht word v hline hv hresult hpause hlives n
    obtain ⟨last, hresult⟩ := hresult
    obtain ⟨hcode, hlt⟩ := v.code_eq
    have hhalt := halt?_of_written hline hv hresult
    exact ⟨v.code, _, Program.rounds_of_halt ht hhalt hpause hlives n, hlt, hcode⟩

/-- A status with a sign and leading zeros, a sign alone, and a script and a program that end with
    the status `-1`. -/
theorem exit_codes_minus_one :
    let sh : Shell (Sink × Host) :=
      start Table.standard { dir := "/" } ({}, .ofFiles {} fun _ => .ended (.exited 0))
    let script : Script := { bytes := "exit -1\n".toUTF8.toList }
    let running : Shell Terminal := start Table.standard { dir := "/" }
      { world := .void, number := 0, launch := fun _ w => .ended (.exited 0) w }
    let input : Input := { buffer := "exit -1\n".toUTF8.toList, limit := 1 }
    sh.Works ∧
      sh.Serves "exit" ["+007"] 7 { sh.scene.session with pendingExit := some 7 } "" ∧
      sh.Serves "exit" ["-"] 1 sh.scene.session "exit: -: numeric argument required\n" ∧
      (repl Table.standard "$ " script sh).1 = .ok (-1) ∧
      ∃ world, Program.rounds "" running input [] 1 = .ended (.exited 255) world := by
  intro sh script running input
  have hsh : sh.Works := rfl
  have hseven : Status.Written "+007" 7 := Status.ofWord?_eq_some_iff.mp (by decide)
  have hminus : Status.Written "-1" (-1) := Status.ofWord?_eq_some_iff.mp (by decide)
  have hsign (v : Status) : ¬Status.Written "-" v := by
    intro hv
    have hword := Status.ofWord?_eq_some_iff.mpr hv
    have hnone : Status.ofWord? "-" = none := by decide
    exact nomatch hword.symm.trans hnone
  obtain ⟨hasks, hrefuses, -, hrepl, hprogram⟩ := exit_codes hsh
  have hline : Words.words? "exit -1" = .ok ["exit", "-1"] := rfl
  refine ⟨hsh, (hasks _ _).mpr hseven, hrefuses _ hsign, ?_, ?_⟩
  · -- the loop over the script: its first turn is the `exit`
    have hfirst : (turn? "$ " script (sh.note (.started "/"))).map
        (fun t => (t.line, t.sh.scene.stage.1.mode)) = some ("exit -1", .ok) := by decide +kernel
    obtain ⟨t, ht, heq⟩ := Option.map_eq_some_iff.mp hfirst
    obtain ⟨htext, hmode⟩ := Prod.mk.inj heq
    rw [← htext] at hline
    exact hrepl "$ " script t (mem_turns_of_turn? ht) hmode _ _ hline hminus
  · -- The program: its first turn is the `exit` as well, and nothing stops it.
    let begun := running.withStage { running.scene.stage with returns := [] }
    have hfirst : (turn? "" input begun).map
        (fun t => (t.line, t.result.toOption, t.after.scene.stage.pause.isNone,
          (Console.log (.exiting (-1)) t.after.scene.stage).killed)) =
          some ("exit -1", some (-1), true, none) := by decide +kernel
    obtain ⟨t, ht, heq⟩ := Option.map_eq_some_iff.mp hfirst
    simp only [Prod.mk.injEq, Option.isNone_iff_eq_none] at heq
    obtain ⟨htext, hresult, hpause, hlives⟩ := heq
    have hok : ∃ status, t.result = .ok status := by
      cases ht' : t.result with
      | ok status => exact ⟨status, rfl⟩
      | error f =>
        rw [ht'] at hresult
        cases hresult
    rw [← htext] at hline
    obtain ⟨code, world, hended, -, hcode⟩ :=
      hprogram "" input running [] t ht _ _ hline hminus hok hpause hlives 0
    obtain rfl : code = 255 := by omega
    exact ⟨world, hended⟩

end Shell

end LineShell
