import LineShell.Proofs.Shell.Reading

/-! # What faults lose of a script

Asking for a line can fail in two ways.  If the prompt cannot be shown, nothing has been taken from
the input yet, and it is as if nobody had asked.  If the input breaks off, the lines that have their
line feeds have been given out before; what stands behind the last line feed is lost, and is never
mistaken for a line.

* `exists_ended`          all bytes are lines with their line feeds, and a rest
* `lines_of_ended`        the lines of a script that breaks off
* `faults_lose_no_line`   no fault loses more than the rest -/

namespace LineShell.Script

/-- All bytes are lines, each with its `lineFeed`, and a rest without one. -/
theorem exists_ended (bytes : List UInt8) :
    ∃ (ended : List (List UInt8)) (rest : List UInt8),
      bytes = ended.flatMap (· ++ [lineFeed]) ++ rest ∧
      (∀ line ∈ ended, lineFeed ∉ line) ∧ lineFeed ∉ rest := by
  induction bytes with
  | nil => exact ⟨[], [], rfl, nofun, nofun⟩
  | cons b bytes ih =>
    obtain ⟨ended, rest, rfl, hended, hrest⟩ := ih
    by_cases hb : b = lineFeed
    · -- an empty line comes first
      refine ⟨[] :: ended, rest, ?_, List.forall_mem_cons.mpr ⟨nofun, hended⟩, hrest⟩
      rw [hb]
      rfl
    · -- the byte belongs to the first line, or to the rest if there is none
      have hfirst {line : List UInt8} (hline : lineFeed ∉ line) : lineFeed ∉ b :: line :=
        List.not_mem_cons_of_ne_of_not_mem (Ne.symm hb) hline
      cases ended with
      | nil => exact ⟨[], b :: rest, rfl, nofun, hfirst hrest⟩
      | cons line ended =>
        rw [List.forall_mem_cons] at hended
        exact ⟨(b :: line) :: ended, rest, rfl,
          List.forall_mem_cons.mpr ⟨hfirst hended.1, hended.2⟩, hrest⟩

/-- The `lines` of a script that breaks off are those that have their line feeds. -/
theorem lines_of_ended {ended : List (List UInt8)} {rest : List UInt8}
    (hended : ∀ line ∈ ended, lineFeed ∉ line) (hrest : lineFeed ∉ rest) (f : Fault) :
    ({ bytes := ended.flatMap (· ++ [lineFeed]) ++ rest, failure := some f } : Script).lines =
      ended.map fun line => lineText (dropReturn line) := by
  induction ended with
  | nil =>
    rw [lines_of_no_lineFeed hrest]
    rfl
  | cons line ended ih =>
    rw [List.forall_mem_cons] at hended
    -- The first line is the one up to the first line feed.
    have hbytes : (line :: ended).flatMap (· ++ [lineFeed]) ++ rest =
        line ++ lineFeed :: (ended.flatMap (· ++ [lineFeed]) ++ rest) := by
      simp
    rw [lines_of_lineFeed hbytes hended.1, ih hended.2]
    rfl

/-- A prompt fails if it cannot be written, or cannot be flushed. -/
theorem display_of_fails {π : Type} [Console π] {prompt : String} {f : Fault} {o o' : π}
    (h : Console.put prompt o = (.error f, o') ∨
      ∃ o₁, Console.put prompt o = (.ok (), o₁) ∧ Console.flush o₁ = (.error f, o')) :
    Console.display prompt o = (.error f, o') := by
  unfold Console.display
  rcases h with hput | ⟨o₁, hput, hflush⟩
  · rw [hput]
  · rw [hput]
    exact hflush

/-- No fault loses more than the rest of the input behind the last line feed.  A prompt that cannot
    be written or flushed takes nothing from the input, so a later prompt that is shown is answered
    as this one would have been; asking again and again, each prompt that is shown gets the next
    `answer`, whichever of them fail.  If any bytes are followed by a fault, the answers are the
    lines that have their line feeds, all of them and in order, and from then on the fault. -/
theorem faults_lose_no_line {π : Type} [Console π] (prompt : String) :
    (∀ (s : Script) (f : Fault) (o o' : π),
      (Console.put prompt o = (.error f, o') ∨
        ∃ o₁, Console.put prompt o = (.ok (), o₁) ∧ Console.flush o₁ = (.error f, o')) →
      read prompt s o = (.error f, s, o') ∧
      ∀ {π' : Type} [Console π'] (prompt' : String) (p p' : π'),
        Console.display prompt' p = (.ok (), p') →
        read prompt' s p = (s.answer 0, s.next.2, p')) ∧
    (∀ (s : Script) (k : Nat) (o : π),
      let fates := (showMany prompt k o).1
      (readMany prompt k s o).1 =
        fates.mapIdx fun i made => made.bind fun () => s.answer (shown (fates.take i))) ∧
    (∀ bytes : List UInt8, ∃ (ended : List (List UInt8)) (rest : List UInt8),
      bytes = ended.flatMap (· ++ [lineFeed]) ++ rest ∧
      (∀ line ∈ ended, lineFeed ∉ line) ∧ lineFeed ∉ rest) ∧
    ∀ [Console.Collects π] (ended : List (List UInt8)) (rest : List UInt8) (f : Fault) (k : Nat)
      (o : π), (∀ line ∈ ended, lineFeed ∉ line) → lineFeed ∉ rest → Console.Collects.Works o →
      ∃ s' o',
        readMany prompt k
            { bytes := ended.flatMap (· ++ [lineFeed]) ++ rest, failure := some f } o =
          ((List.range k).map fun n =>
            match ended[n]? with
            | some line => .ok (some (lineText (dropReturn line)))
            | none => .error (.unreadable f), s', o') := by
  refine ⟨fun s f o o' hfails => ⟨?_, fun prompt' p p' hshown => ?_⟩, fun s k o => ?_,
    exists_ended, ?_⟩
  · exact read_of_display_error (display_of_fails hfails) s
  · exact read_of_display_ok hshown s
  · exact (readMany_eq_showMany prompt k s o).1
  · intro _ ended rest f k o hended hrest ho
    obtain ⟨s', o', hmany, -, -⟩ := readMany_works prompt k
      { bytes := ended.flatMap (· ++ [lineFeed]) ++ rest, failure := some f } ho
    refine ⟨s', o', hmany.trans ?_⟩
    -- the rest is no line of a script that breaks off
    congr 2
    funext n
    rw [answer, lines_of_ended hended hrest, List.getElem?_map]
    cases ended[n]? <;> rfl

/-- A line and a rest before a fault, with a prompt that cannot be flushed, and with one that cannot
    be written at first. -/
theorem faults_lose_no_line_rest :
    let s : Script := { bytes := [0x61, 13, 10, 0x62], failure := some (.stream "gone") }
    read "$ " s ({ mode := .noflush } : Sink) =
        (.error (.stream "flush failed"), s, { mode := .noflush, text := "$ " }) ∧
      read "> " s ({} : Sink) = (.ok (some "a"), { s with bytes := [0x62] }, { text := "> " }) ∧
      (readMany "$ " 3 s ({ mode := .once } : Sink)).1 =
        [.error (.stream "sink failed"), .ok (some "a"), .error (.unreadable (.stream "gone"))] ∧
      (readMany "$ " 3 s ({} : Sink)).1 =
        [.ok (some "a"), .error (.unreadable (.stream "gone")),
          .error (.unreadable (.stream "gone"))] := by
  intro s
  obtain ⟨hfails, hmany, -, htorn⟩ := @faults_lose_no_line Sink _ "$ "
  obtain ⟨hkept, hlater⟩ := hfails s (.stream "flush failed") { mode := .noflush }
    { mode := .noflush, text := "$ " } (.inr ⟨_, rfl, rfl⟩)
  -- On a console in working order all three prompts are shown.
  obtain ⟨s', o', hread⟩ := htorn [[0x61, 13]] [0x62] (.stream "gone") 3 {} (by decide)
    (by decide) rfl
  exact ⟨hkept, hlater "> " ({} : Sink) _ rfl, hmany s 3 _, congrArg Prod.fst hread⟩

end LineShell.Script
