import LineShell.Console.Sink
import LineShell.Proofs.Console.Working
import LineShell.Proofs.Shell.Lines
import LineShell.Proofs.Text.Decoding
import LineShell.Text.Pieces

/-! # Reading a script line by line

A script is cut into lines before its bytes are decoded.  That is the same as decoding all bytes
first and cutting the text: no character other than a line feed holds the byte of a line feed, and
so for the carriage return.

* `Script.lines_eq`               the lines of a script are those of the text that it holds
* `Script.readMany_eq_showMany`   asking again and again, whatever becomes of the prompts
* `Script.readMany_eq`            asking again and again gives the lines in order
* `Script.read_decoded`           what is read, for all bytes; lines that are written come back -/

namespace LineShell

namespace Text

/-- A line that had its line feed, without the carriage return that may precede it. -/
def dropReturn (line : String) : String :=
  if line.toList.getLast? = some '\r' then String.ofList line.toList.dropLast else line

/-- The lines of a text: its `pieces` between line feeds, the last one of which counts only if it is
    not empty. -/
def lines (text : String) : List String :=
  (pieces '\n' text).dropLast.map dropReturn ++
    ((pieces '\n' text).getLast?.filter (· ≠ "")).toList

/-- The first line feed ends the first line. -/
theorem lines_lineFeed {line : String} (h : '\n' ∉ line.toList) (rest : String) :
    lines (line ++ String.singleton '\n' ++ rest) = dropReturn line :: lines rest := by
  have hrest : pieces '\n' rest ≠ [] := by simp [pieces, cut_ne_nil]
  rw [lines, lines, pieces_append, pieces_of_not_mem h, List.singleton_append,
    List.dropLast_cons_of_ne_nil hrest, List.getLast?_cons_of_ne_nil hrest]
  rfl

/-- A carriage return at the end of a line is dropped. -/
theorem dropReturn_append (line : String) : dropReturn (line ++ "\r") = line := by
  rw [dropReturn, String.toList_append]
  simp

/-- Lines that are written with `"\r\n"` behind each come back. -/
theorem lines_written {ls : List String} (h : ∀ l ∈ ls, '\n' ∉ l.toList) :
    lines (String.join (ls.map (· ++ "\r\n"))) = ls := by
  induction ls with
  | nil => rfl
  | cons l ls ih =>
    rw [List.forall_mem_cons] at h
    have hline : '\n' ∉ (l ++ "\r").toList := by simp [h.1]
    have hsplit : String.join ((l :: ls).map (· ++ "\r\n")) =
        l ++ "\r" ++ String.singleton '\n' ++ String.join (ls.map (· ++ "\r\n")) := by
      rw [List.map_cons, String.join_cons, ← String.toList_inj]
      simp
    rw [hsplit, lines_lineFeed hline, dropReturn_append, ih h.2]

/-- The bytes that a text is written as are those of its characters, `String.utf8EncodeChar`. -/
theorem toList_toUTF8 (text : String) :
    text.toUTF8.data.toList = text.toList.flatMap String.utf8EncodeChar := by
  conv => lhs; rw [← String.ofList_toList (s := text)]
  rw [String.toUTF8_eq_toByteArray, String.toByteArray_ofList]
  simp [List.utf8Encode]

end Text

namespace Script

/-! ### Lines of bytes and lines of text -/

/-- A `lineFeed` is read as one, whatever is around it. -/
theorem lineText_lineFeed (line rest : List UInt8) :
    lineText (line ++ lineFeed :: rest) =
      lineText line ++ String.singleton '\n' ++ lineText rest := by
  have hdecode := Text.decode_ascii (c := '\n') (by decide) line rest
  rw [lineText, show lineFeed = UInt8.ofNat '\n'.toNat from rfl, hdecode, ← String.toList_inj]
  simp [lineText]

/-- Without a `lineFeed` none is read. -/
theorem not_mem_lineText {line : List UInt8} (h : lineFeed ∉ line) :
    '\n' ∉ (lineText line).toList := by
  rw [lineText, String.toList_ofList]
  exact fun hmem => h (Text.mem_of_mem_decode hmem (by decide))

/-- The pieces of the bytes hold the pieces of the text: to cut and to decode commute. -/
theorem map_lineText_pieces (s : Script) :
    s.pieces.map lineText = Text.pieces '\n' (lineText s.bytes) := by
  -- Cut is at the first line feed, in bytes as in text, and the rest is shorter.
  rcases s.cases_lineFeed with ⟨line, rest, hs, hline⟩ | hs
  · have hrest := map_lineText_pieces { s with bytes := rest }
    rw [pieces_of_lineFeed hs hline, List.map_cons, hrest, hs, lineText_lineFeed,
      Text.pieces_append, Text.pieces_of_not_mem (not_mem_lineText hline), List.singleton_append]
  · rw [pieces_of_no_lineFeed hs, Text.pieces_of_not_mem (not_mem_lineText hs),
      List.map_singleton]
termination_by s.bytes.length
decreasing_by
  rw [hs, List.length_append, List.length_cons]
  omega

/-- The bytes that a text is written as hold the text. -/
theorem lineText_toUTF8 (text : String) : lineText text.toUTF8.data.toList = text := by
  rw [lineText, Text.toList_toUTF8, Text.decode_encode, String.ofList_toList]

/-- Only no bytes hold no text. -/
theorem lineText_eq_empty {line : List UInt8} : lineText line = "" ↔ line = [] := by
  rw [lineText, String.ofList_eq_empty_iff, Text.decode_eq_nil]

theorem decode_return (line : List UInt8) :
    Text.decode (line ++ [13]) = Text.decode line ++ ['\r'] :=
  Text.decode_ascii (c := '\r') (by decide) line []

/-- The text of a line ends with a carriage return if the line does. -/
theorem getLast?_decode {line : List UInt8} :
    (Text.decode line).getLast? = some '\r' ↔ line.getLast? = some 13 := by
  constructor
  · intro h
    have hmem : 13 ∈ line.reverse :=
      List.mem_reverse.mpr
        (Text.mem_of_mem_decode (c := '\r') (List.mem_of_getLast? h) (by decide))
    obtain ⟨after, before, hline, hafter⟩ := List.eq_append_cons_of_mem hmem
    obtain rfl : line = before.reverse ++ 13 :: after.reverse := by
      rw [← List.reverse_reverse line, hline]
      simp
    by_cases hnil : after.reverse = []
    · simp [hnil]
    · -- What is behind the last carriage return is not read as one.
      have hdecode := Text.decode_ascii (c := '\r') (by decide) before.reverse after.reverse
      have hne : Text.decode after.reverse ≠ [] := mt Text.decode_eq_nil.mp hnil
      rw [show (13 : UInt8) = UInt8.ofNat '\r'.toNat from rfl, hdecode,
        List.getLast?_append, List.getLast?_cons_of_ne_nil hne,
        Option.or_of_isSome (List.getLast?_isSome.mpr hne)] at h
      have hreturn := Text.mem_of_mem_decode (List.mem_of_getLast? h) (by decide)
      exact absurd (List.mem_reverse.mp hreturn) hafter
  · intro h
    obtain ⟨before, rfl⟩ := List.getLast?_eq_some_iff.mp h
    rw [decode_return]
    simp

/-- The carriage return of the text is that of the bytes: `dropReturn` and `lineText` commute. -/
theorem lineText_dropReturn (line : List UInt8) :
    lineText (dropReturn line) = Text.dropReturn (lineText line) := by
  unfold dropReturn Text.dropReturn
  by_cases h : line.getLast? = some 13
  · obtain ⟨before, rfl⟩ := List.getLast?_eq_some_iff.mp h
    simp [lineText, decode_return]
  · rw [if_neg h, lineText, String.toList_ofList, if_neg (mt getLast?_decode.mp h)]

/-- The `lines` of a script that does not break off are those of the text that it holds. -/
theorem lines_eq {s : Script} (hs : s.failure = none) :
    s.lines = Text.lines (lineText s.bytes) := by
  rw [Text.lines, ← map_lineText_pieces, lines]
  simp only [List.map_append, List.map_map, ← List.map_dropLast, List.getLast?_map]
  -- The lines that have their line feeds, and the one that may have none.
  congr 1
  · exact List.map_congr_left fun line _ => lineText_dropReturn line
  · cases s.pieces.getLast? with
    | none => rfl
    | some line =>
      by_cases h : line = [] <;> simp [Option.filter, hs, h, lineText_eq_empty]

/-! ### Asking again and again -/

/-- What is given out after `n` lines: the next line, or how the input ends. -/
def answer (s : Script) (n : Nat) : Except Fault (Option String) :=
  match s.lines[n]? with
  | some line => .ok (some line)
  | none =>
    match s.failure with
    | some f => .error (.unreadable f)
    | none => .ok none

/-- A script that does not break off answers with its lines, and then with `none`. -/
theorem answer_of_failure_eq_none {s : Script} (hs : s.failure = none) (n : Nat) :
    s.answer n = .ok s.lines[n]? := by
  unfold answer
  split
  · rename_i hline
    rw [hline]
  · rename_i hline
    rw [hs, hline]

/-- Taking a line gives `answer 0` and leaves the other answers. -/
theorem next_eq_answer (s : Script) :
    s.next.1.map (·.map lineText) = s.answer 0 ∧ ∀ n, s.next.2.answer n = s.answer (n + 1) := by
  cases hlines : s.lines with
  | nil =>
    rw [next_of_lines_eq_nil hlines]
    refine ⟨?_, fun n => ?_⟩
    · rw [answer, hlines]
      cases s.failure <;> rfl
    · rw [answer, answer, lines_exhausted, hlines]
      rfl
  | cons text texts =>
    obtain ⟨line, hnext, rfl⟩ := next_of_lines_eq_cons hlines
    rw [hnext]
    refine ⟨?_, fun n => ?_⟩
    · rw [answer, hlines]
      rfl
    · rw [answer, answer, lines_dropLines, hlines]
      rfl

section Reading

variable {π : Type} [Console π]

/-- Ask for a line `k` times. -/
def readMany (prompt : String) :
    Nat → Script → π → List (Except Fault (Option String)) × Script × π
  | 0, s, o => ([], s, o)
  | k + 1, s, o =>
    let (answer, s, o) := read prompt s o
    let (answers, s, o) := readMany prompt k s o
    (answer :: answers, s, o)

/-- Show a prompt `k` times. -/
def showMany (prompt : String) : Nat → π → List (Except Fault Unit) × π
  | 0, o => ([], o)
  | k + 1, o =>
    let (made, o) := Console.display prompt o
    let (others, o) := showMany prompt k o
    (made :: others, o)

/-- How many prompts have been shown. -/
def shown (fates : List (Except Fault Unit)) : Nat := fates.countP Except.isOk

/-- A prompt that is not shown takes nothing from the input. -/
theorem read_of_display_error {prompt : String} {f : Fault} {o o' : π}
    (h : Console.display prompt o = (.error f, o')) (s : Script) :
    read prompt s o = (.error f, s, o') := by
  rw [read, h]

/-- A prompt that is shown is answered. -/
theorem read_of_display_ok {prompt : String} {o o' : π}
    (h : Console.display prompt o = (.ok (), o')) (s : Script) :
    read prompt s o = (s.answer 0, s.next.2, o') := by
  rw [read, h, ← s.next_eq_answer.1]
  rfl

/-- Each prompt that is shown gets the next `answer`, and each one that is not gets its fault,
    whatever becomes of the others. -/
theorem readMany_eq_showMany (prompt : String) (k : Nat) (s : Script) (o : π) :
    let fates := (showMany prompt k o).1
    (readMany prompt k s o).1 =
        fates.mapIdx (fun i made => made.bind fun () => s.answer (shown (fates.take i))) ∧
      (∀ n, (readMany prompt k s o).2.1.answer n = s.answer (n + shown fates)) ∧
      (readMany prompt k s o).2.2 = (showMany prompt k o).2 := by
  -- The induction is on the prompts, and the script that is left goes along.
  induction k generalizing s o with
  | zero => exact ⟨rfl, fun _ => rfl, rfl⟩
  | succ k ih =>
    rcases hdisplay : Console.display prompt o with ⟨f | ⟨⟩, o'⟩
    · -- a prompt that is not shown: the script is what it was
      obtain ⟨hanswers, hleft, hconsole⟩ := ih s o'
      simp only [readMany, showMany, read_of_display_error hdisplay, hdisplay]
      refine ⟨?_, fun n => ?_, hconsole⟩
      · rw [hanswers, List.mapIdx_cons]
        rfl
      · rw [hleft]
        rfl
    · obtain ⟨hanswers, hleft, hconsole⟩ := ih s.next.2 o'
      simp only [readMany, showMany, read_of_display_ok hdisplay, hdisplay]
      -- the prompt counts among those that have been shown
      have hshown (fates : List (Except Fault Unit)) :
          shown (.ok () :: fates) = shown fates + 1 :=
        List.countP_cons_of_pos rfl
      refine ⟨?_, fun n => ?_, hconsole⟩
      · simp only [hanswers, s.next_eq_answer.2, List.mapIdx_cons, List.take_succ_cons, hshown]
        rfl
      · rw [hleft, s.next_eq_answer.2, hshown]
        rfl

variable [Console.Collects π]

/-- A console that `Works` shows every prompt. -/
theorem showMany_works (prompt : String) (k : Nat) {o : π} (ho : Console.Collects.Works o) :
    ∃ o', showMany prompt k o = (List.replicate k (.ok ()), o') ∧ Console.Collects.Works o' ∧
      Console.Collects.text o' =
        Console.Collects.text o ++ String.join (List.replicate k prompt) := by
  induction k generalizing o with
  | zero => exact ⟨o, rfl, ho, by simp⟩
  | succ k ih =>
    obtain ⟨o', hdisplay, ho', hout⟩ := Console.display_works prompt ho
    obtain ⟨o'', hmany, ho'', hout'⟩ := ih ho'
    refine ⟨o'', ?_, ho'', ?_⟩
    · rw [showMany, hdisplay]
      dsimp only
      rw [hmany]
      rfl
    · rw [hout', hout, List.replicate_succ, String.join_cons, String.append_assoc]

/-- On a console that `Works` all that is asked for is answered in order. -/
theorem readMany_works (prompt : String) (k : Nat) (s : Script) {o : π}
    (ho : Console.Collects.Works o) :
    ∃ s' o', readMany prompt k s o = ((List.range k).map s.answer, s', o') ∧
      Console.Collects.Works o' ∧
      Console.Collects.text o' =
        Console.Collects.text o ++ String.join (List.replicate k prompt) := by
  obtain ⟨o', hshow, ho', hout⟩ := showMany_works prompt k ho
  obtain ⟨hanswers, -, hconsole⟩ := readMany_eq_showMany prompt k s o
  rw [hshow] at hanswers hconsole
  refine ⟨(readMany prompt k s o).2.1, o', Prod.ext ?_ (Prod.ext rfl hconsole), ho', hout⟩
  rw [hanswers]
  refine List.ext_getElem (by simp) fun i hi _ => ?_
  -- All prompts are shown, so as many have been as were asked before.
  have hshown : shown ((List.replicate k (.ok ())).take i) = i := by
    have hlt : i < k := by simpa using hi
    rw [List.take_replicate, Nat.min_eq_left (Nat.le_of_lt hlt), shown, List.countP_replicate]
    rfl
  rw [List.getElem_mapIdx, List.getElem_replicate, List.getElem_map, List.getElem_range, hshown]
  rfl

/-- Asking again and again gives the `lines` in order, and then the end of the input. -/
theorem readMany_eq (prompt : String) (k : Nat) {s : Script} (hs : s.failure = none) {o : π}
    (ho : Console.Collects.Works o) :
    ∃ s' o', readMany prompt k s o = ((List.range k).map fun n => .ok s.lines[n]?, s', o') ∧
      Console.Collects.Works o' ∧
      Console.Collects.text o' =
        Console.Collects.text o ++ String.join (List.replicate k prompt) := by
  obtain ⟨s', o', hmany, ho', hout⟩ := readMany_works prompt k s ho
  refine ⟨s', o', ?_, ho', hout⟩
  rw [hmany, funext (answer_of_failure_eq_none hs)]

/-- What is read from any bytes, on a console for the prompts that is in working order: the
    `Text.lines` of the text that the bytes decode to, in order, and nothing more; there is one
    prompt for each time that a line is asked for.  Lines without line feeds that are written with a
    carriage return and a line feed come back. -/
theorem read_decoded (prompt : String) {o : π} (ho : Console.Collects.Works o) :
    (∀ bytes, ∃ cs, Text.Decodes bytes cs ∧ (∀ cs', Text.Decodes bytes cs' → cs' = cs) ∧
      ∀ k, ∃ s' o',
        readMany prompt k { bytes } o =
          ((List.range k).map fun n => .ok (Text.lines (String.ofList cs))[n]?, s', o') ∧
        Console.Collects.Works o' ∧
        Console.Collects.text o' =
          Console.Collects.text o ++ String.join (List.replicate k prompt)) ∧
    ∀ ls : List String, (∀ l ∈ ls, '\n' ∉ l.toList) → ∀ k, ∃ s' o',
      readMany prompt k { bytes := (String.join (ls.map (· ++ "\r\n"))).toUTF8.data.toList } o =
        ((List.range k).map fun n => .ok ls[n]?, s', o') := by
  refine ⟨fun bytes => ⟨Text.decode bytes, Text.decodes_iff.mpr rfl, ?_, fun k => ?_⟩,
    fun ls hls k => ?_⟩
  · exact fun cs' h => (Text.decodes_iff.mp h).symm
  · have hread := readMany_eq prompt k (s := { bytes }) rfl ho
    rwa [lines_eq rfl] at hread
  · obtain ⟨s', o', hread, -, -⟩ := readMany_eq prompt k
      (s := { bytes := (String.join (ls.map (· ++ "\r\n"))).toUTF8.data.toList }) rfl ho
    rw [lines_eq rfl, lineText_toUTF8, Text.lines_written hls] at hread
    exact ⟨s', o', hread⟩

/-- Characters that break off before the end of a line and before a carriage return, and a carriage
    return at the end of the input. -/
theorem read_decoded_broken :
    Console.Collects.Works ({} : Sink) ∧ ∃ s' o',
      readMany "$ " 4 { bytes := [0x63, 0xE9, 13, 10, 0xE2, 0x82, 10, 13] } ({} : Sink) =
        ([.ok (some "c\uFFFD"), .ok (some "\uFFFD"), .ok (some "\r"), .ok none], s', o') ∧
      o'.text = "$ $ $ $ " := by
  have hworks : Console.Collects.Works ({} : Sink) := rfl
  obtain ⟨cs, hcs, -, hread⟩ :=
    (read_decoded "$ " hworks).1 [0x63, 0xE9, 13, 10, 0xE2, 0x82, 10, 13]
  obtain ⟨s', o', hmany, -, hout⟩ := hread 4
  obtain rfl := Text.decodes_iff.mp hcs
  exact ⟨hworks, s', o', hmany, hout⟩

end Reading

end Script

end LineShell
