import LineShell.Console.Sink
import LineShell.Machine.Catalog
import LineShell.Proofs.Shell.Children
import LineShell.Proofs.Shell.Loop
import LineShell.Proofs.Words.Blank

/-! # Lines without words in a script

A line without words takes a turn of its own, which gives back the status that the shell had, and
passes on what has been written.  So such lines may be put into a script anywhere, and the shell
does with it what it did before; only the prompts tell the two apart.

* `execute_blank`            the turn of a line without words
* `loop_padded`              the loop over two scripts that differ in such lines
* `blank_lines_invisible`    the same for runs of the shell -/

namespace LineShell

/-! ### Scripts with more blank lines -/

namespace Script

/-- Lines that each have their line feed, and the same with more lines between them that are cut
    into no words. -/
inductive Padded : List UInt8 → List UInt8 → Prop
  | nil : Padded [] []
  | line {line bytes padded : List UInt8} (hline : lineFeed ∉ line) (rest : Padded bytes padded) :
      Padded (line ++ lineFeed :: bytes) (line ++ lineFeed :: padded)
  | blank {line bytes padded : List UInt8} (hline : lineFeed ∉ line)
      (hblank : Words.words? (lineText (dropReturn line)) = .ok [])
      (rest : Padded bytes padded) : Padded bytes (line ++ lineFeed :: padded)

/-- Every text whose last byte is a `lineFeed` is made up of such lines. -/
theorem Padded.refl {bytes : List UInt8} (h : bytes = [] ∨ bytes.getLast? = some lineFeed) :
    Padded bytes bytes := by
  rcases cases_lineFeed { bytes } with ⟨line, rest, hbytes, hline⟩ | hnone
  · have hsplit : bytes = line ++ lineFeed :: rest := hbytes
    -- What stands behind the first line feed ends with one as well, if it is not empty.
    have hrest : rest = [] ∨ rest.getLast? = some lineFeed := by
      by_cases hrest : rest = []
      · exact .inl hrest
      · rw [hsplit, List.getLast?_append, List.getLast?_cons_of_ne_nil hrest,
          Option.or_of_isSome (List.getLast?_isSome.mpr hrest)] at h
        exact .inr (h.resolve_left (by simp))
    rw [hsplit]
    exact .line hline (Padded.refl hrest)
  · obtain rfl | h := h
    · exact .nil
    · exact absurd (List.mem_of_getLast? h) hnone
termination_by bytes.length
decreasing_by
  rw [hsplit, List.length_append, List.length_cons]
  omega

end Script

namespace Shell

/-! ### The turn of a blank line -/

section Turn

variable {ω η : Type} [Console ω] [Console.Collects ω]

/-- A line without words leaves the shell `Alike`, on a console that has got nothing, and gives back
    its `lastStatus`. -/
theorem execute_blank {table : Table (ω × η)} (ht : table.Blind) {line : String}
    (hblank : Words.words? line = .ok []) {sh : Shell (ω × η)} (hsh : sh.Works) :
    (execute table line sh).1 = .ok sh.lastStatus ∧ (execute table line sh).2.Alike sh ∧
      (execute table line sh).2.written = sh.written := by
  obtain ⟨effect, ht⟩ := ht
  obtain ⟨o, hrun, -, hout⟩ := execute_yields ht line hsh
  rw [turnEffect, hblank] at hrun hout
  rw [hrun]
  refine ⟨rfl, ⟨rfl, rfl, rfl⟩, ?_⟩
  rw [written, hout]
  exact String.append_empty

variable [Machine η]

omit [Console ω] [Console.Collects ω] in
/-- A line without words starts no child. -/
theorem children_blank {line : String} (hblank : Words.words? line = .ok []) (s : Session) (w : η) :
    s.children w line = [] := by
  rw [Session.children, hblank]

end Turn

/-! ### The loop -/

section Loop

variable {ω η ρ : Type} [Console ω] [Console.Collects ω] [Machine η] [LineSource ρ (ω × η)]
variable {prompt : String}

/-- The children that `loop` starts, and what becomes of them. -/
def children (prompt : String) (source : ρ) (sh : Shell (ω × η)) : List Event :=
  (turns Table.standard prompt source sh).flatMap fun t => t.events.filter Event.isSpawn

omit [Machine η] in
/-- The turn in which the first line of a script is read. -/
theorem turn?_of_lines_eq_cons (rd : Script.Reader ρ ω η) {r : ρ} {sh : Shell (ω × η)}
    {line : String} {lines : List String} (hlines : (rd.script r).lines = line :: lines)
    (hr : rd.Ready r) (hsh : sh.Works) :
    ∃ t, turn? prompt r sh = some t ∧ t.line = line ∧ t.sh.Works ∧ t.sh.Alike sh := by
  obtain ⟨r', o', hread, -, -, ho', -, -⟩ := rd.read_ready prompt sh.scene.stage.2 hr hsh
  obtain ⟨bytes, hnext, hline⟩ := Script.next_of_lines_eq_cons hlines
  rw [hnext] at hread
  have hread' : LineSource.read prompt r sh.scene.stage =
      (.ok (some line), r', (o', sh.scene.stage.2)) := by
    rw [← hline]
    exact hread
  refine ⟨⟨line, sh.withStage (o', sh.scene.stage.2)⟩, ?_, rfl, ho', ⟨rfl, rfl, rfl⟩⟩
  rw [turn?, hread']

omit [Machine η] in
/-- Without lines there is no turn. -/
theorem turn?_of_lines_eq_nil (rd : Script.Reader ρ ω η) {r : ρ} {sh : Shell (ω × η)}
    (hlines : (rd.script r).lines = []) (hr : rd.Ready r) (hsh : sh.Works) :
    turn? prompt r sh = none := by
  obtain ⟨r', o', hread, -, -, -, -, -⟩ := rd.read_ready prompt sh.scene.stage.2 hr hsh
  rw [Script.next_of_lines_eq_nil hlines] at hread
  have hread' : LineSource.read prompt r sh.scene.stage = _ := hread
  rw [turn?, hread']
  -- Whether the source breaks off or ends, there is no line.
  cases (rd.script r).failure <;> rfl

omit [Console.Collects ω] in
/-- The children of the loop are those of its first turn, and then those of the rest unless the loop
    ends. -/
theorem children_of_round {r r₁ : ρ} {sh sh₁ : Shell (ω × η)}
    {halt : Option (Except Fault Status)} {t : Turn (ω × η)}
    (hround : round Table.standard prompt r sh = (halt, r₁, sh₁))
    (hturn : turn? prompt r sh = some t) :
    children prompt r sh =
      t.events.filter Event.isSpawn ++
        if halt.isSome then [] else children prompt r₁ sh₁ := by
  unfold children
  cases halt with
  | some result =>
    rw [turns_of_round_eq_some hround, hturn]
    simp
  | none =>
    rw [turns_of_round_eq_none hround, hturn]
    simp

/-- Without lines the loop comes to its `ending` at once, and starts no child. -/
theorem loop_of_lines_eq_nil (rd : Script.Reader ρ ω η) {r : ρ} {sh : Shell (ω × η)}
    (hlines : (rd.script r).lines = []) (hr : rd.Ready r) (hsh : sh.Works) :
    ∃ s sh₁, loop Table.standard prompt r sh = ((rd.script r).ending, s, sh₁) ∧ sh₁.Alike sh ∧
      sh₁.written = sh.written ++ rd.here prompt ∧ children prompt r sh = [] := by
  obtain ⟨s, sh₁, hround, -, halike, hout, -⟩ :=
    round_of_lines_eq_nil rd hlines hr hsh (.refl sh)
  refine ⟨s, sh₁, loop_of_round_eq_some hround, halike, hout, ?_⟩
  rw [children, turns_of_round_eq_some hround, turn?_of_lines_eq_nil rd hlines hr hsh]
  rfl

omit [Console ω] [Console.Collects ω] [Machine η] in
theorem halt?_of_ok {turn : Except Fault Status × Shell (ω × η)} {status : Status}
    (h : turn.1 = .ok status) : halt? turn = turn.2.scene.session.pendingExit.map .ok := by
  obtain ⟨answer, sh⟩ := turn
  obtain rfl : answer = .ok status := h
  rfl

omit [Console ω] [Console.Collects ω] [Machine η] in
/-- If a turn does not end the loop, no exit is pending behind it. -/
theorem pendingExit_of_halt?_eq_none {turn : Except Fault Status × Shell (ω × η)}
    (h : halt? turn = none) : turn.2.scene.session.pendingExit = none := by
  obtain ⟨f | status, sh⟩ := turn
  · cases h
  · exact Option.map_eq_none_iff.mp h

/-- The round that reads the first line of a script does to the shell what the line does to a shell
    `sh₀` that is `Alike`, without a prompt on the same console. -/
theorem round_of_lineFeed (rd : Script.Reader ρ ω η) (hhere : rd.here prompt = "")
    {line rest : List UInt8} {failure : Option Fault} {r : ρ} {sh sh₀ : Shell (ω × η)}
    (hscript : rd.script r = ⟨line ++ Script.lineFeed :: rest, failure⟩)
    (hline : Script.lineFeed ∉ line) (hr : rd.Ready r) (hsh : sh.Works) (hsh₀ : sh₀.Works)
    (hknows : sh.scene.session.KnowsBuiltins) (halike : sh.Alike sh₀) :
    let text := Script.lineText (Script.dropReturn line)
    let turn := execute Table.standard text sh₀
    ∃ r₁ sh₁ out, round Table.standard prompt r sh = (halt? turn, r₁, sh₁) ∧
      rd.script r₁ = ⟨rest, failure⟩ ∧ rd.Ready r₁ ∧ sh₁.Works ∧ sh₁.Alike turn.2 ∧
      turn.2.written = sh₀.written ++ out ∧ sh₁.written = sh.written ++ out ∧
      children prompt r sh = sh₀.scene.session.children sh₀.scene.stage.2 text ++
        if (halt? turn).isSome then [] else children prompt r₁ sh₁ := by
  intro text turn
  -- The line feed makes the first line, whatever comes behind it.
  have hlines : (rd.script r).lines = text :: (Script.mk rest failure).lines := by
    rw [hscript]
    exact Script.lines_of_lineFeed rfl hline
  obtain ⟨r₁, sh₁, out, hround, hscript₁, hr₁, hsh₁, -, halike₁, hout₀, hout, -⟩ :=
    round_of_lines_eq_cons rd Table.standard_blind hlines hr hsh hsh₀ halike
  obtain ⟨t, hturn, hread, hworks, halike'⟩ := turn?_of_lines_eq_cons rd hlines hr hsh
  have hevents := t.filter_isSpawn (halike'.session ▸ hknows) hworks
  rw [hread, (halike'.trans halike).session, (halike'.trans halike).machine] at hevents
  refine ⟨r₁, sh₁, out, hround, ?_, hr₁, hsh₁, halike₁, hout₀, ?_, ?_⟩
  · rw [hscript₁, hscript, Script.dropLines_of_lineFeed rfl hline, Script.dropLines_zero]
  · rw [hout, hhere, String.empty_append]
  · rw [children_of_round hround hturn, hevents]

/-- The loop does the same over two scripts that are `Padded`, if the prompts go elsewhere and no
    exit has been asked for. -/
theorem loop_padded (rd : Script.Reader ρ ω η) (hhere : rd.here prompt = "")
    {bytes padded : List UInt8} (h : Script.Padded bytes padded) {failure : Option Fault}
    {r r' : ρ} {sh sh' : Shell (ω × η)} (hscript : rd.script r = ⟨bytes, failure⟩)
    (hscript' : rd.script r' = ⟨padded, failure⟩) (hr : rd.Ready r) (hr' : rd.Ready r')
    (hsh : sh.Works) (hsh' : sh'.Works) (hknows : sh.scene.session.KnowsBuiltins)
    (hexit : sh.scene.session.pendingExit = none) (halike : sh.Alike sh') :
    ∃ result s s' sh₁ sh₁' out,
      loop Table.standard prompt r sh = (result, s, sh₁) ∧
      loop Table.standard prompt r' sh' = (result, s', sh₁') ∧ sh₁.Alike sh₁' ∧
      sh₁.written = sh.written ++ out ∧ sh₁'.written = sh'.written ++ out ∧
      children prompt r sh = children prompt r' sh' := by
  -- the shells are generalised, and after each round they are alike again
  induction h generalizing r r' sh sh' with
  | nil =>
    have hnone : (Script.mk [] failure).lines = [] := Script.lines_exhausted ⟨[], failure⟩
    have hlines : (rd.script r).lines = [] := by rw [hscript, hnone]
    have hlines' : (rd.script r').lines = [] := by rw [hscript', hnone]
    obtain ⟨s, sh₁, hloop, halike₁, hout, hchildren⟩ := loop_of_lines_eq_nil rd hlines hr hsh
    obtain ⟨s', sh₁', hloop', halike₁', hout', hchildren'⟩ :=
      loop_of_lines_eq_nil rd hlines' hr' hsh'
    rw [hscript] at hloop
    rw [hscript'] at hloop'
    rw [hhere] at hout hout'
    exact ⟨_, s, s', sh₁, sh₁', "", hloop, hloop',
      halike₁.trans (halike.trans halike₁'.symm), hout, hout', hchildren.trans hchildren'.symm⟩
  | @line line bytes padded hline rest ih =>
    -- both loops read the line, and each round does what the line does to `sh`
    obtain ⟨r₁, sh₁, out, hround, hscript₁, hr₁, hsh₁, halike₁, hout₀, hout, hchildren⟩ :=
      round_of_lineFeed rd hhere hscript hline hr hsh hsh hknows (.refl sh)
    obtain ⟨r₁', sh₁', out', hround', hscript₁', hr₁', hsh₁', halike₁', hout₀', hout',
        hchildren'⟩ :=
      round_of_lineFeed rd hhere hscript' hline hr' hsh' hsh (halike.session ▸ hknows) halike.symm
    obtain rfl : out = out' := (String.append_right_inj _).mp (hout₀.symm.trans hout₀')
    have hboth := halike₁.trans halike₁'.symm
    rcases hhalt : halt? (execute Table.standard (Script.lineText (Script.dropReturn line)) sh)
      with _ | result
    · -- no exit has been asked for, and the loops go on with the rest
      rw [hhalt] at hround hround' hchildren hchildren'
      have hknows₁ : sh₁.scene.session.KnowsBuiltins := by
        rw [halike₁.session]
        exact ((Call.execute _).kept sh).knowsBuiltins hknows
      have hexit₁ : sh₁.scene.session.pendingExit = none := by
        rw [halike₁.session]
        exact pendingExit_of_halt?_eq_none hhalt
      obtain ⟨result, s, s', sh₂, sh₂', more, hloop, hloop', halike₂, hmore, hmore', hrest⟩ :=
        ih hscript₁ hscript₁' hr₁ hr₁' hsh₁ hsh₁' hknows₁ hexit₁ hboth
      refine ⟨result, s, s', sh₂, sh₂', out ++ more, (loop_of_round_eq_none hround).trans hloop,
        (loop_of_round_eq_none hround').trans hloop', halike₂, ?_, ?_, ?_⟩
      · rw [hmore, hout, String.append_assoc]
      · rw [hmore', hout', String.append_assoc]
      · rw [hchildren, hchildren', hrest]
    · -- both loops end with this line
      rw [hhalt] at hround hround' hchildren hchildren'
      exact ⟨result, r₁, r₁', sh₁, sh₁', out, loop_of_round_eq_some hround,
        loop_of_round_eq_some hround', hboth, hout, hout', hchildren.trans hchildren'.symm⟩
  | @blank line bytes padded hline hblank rest ih =>
    -- one loop stays where it is, and the other one reads the blank line
    obtain ⟨hanswer, hturn, hsilent⟩ := execute_blank Table.standard_blind hblank hsh'
    obtain ⟨r₁', sh₁', out, hround', hscript₁', hr₁', hsh₁', halike₁', hout₀, hout', hchildren'⟩ :=
      round_of_lineFeed rd hhere hscript' hline hr' hsh' hsh' (halike.session ▸ hknows) (.refl sh')
    have hhalt : halt? (execute Table.standard (Script.lineText (Script.dropReturn line)) sh') =
        none := by
      rw [halt?_of_ok hanswer, hturn.session, ← halike.session, hexit]
      rfl
    obtain rfl : out = "" := by
      rw [hsilent] at hout₀
      exact (String.append_right_inj _).mp (hout₀.symm.trans String.append_empty.symm)
    rw [hhalt] at hround' hchildren'
    rw [children_blank hblank, List.nil_append, if_neg (by simp)] at hchildren'
    rw [String.append_empty] at hout'
    obtain ⟨result, s, s', sh₂, sh₂', more, hloop, hloop', halike₂, hmore, hmore', hrest⟩ :=
      ih hscript hscript₁' hr hr₁' hsh hsh₁' hknows hexit
        (halike.trans (hturn.symm.trans halike₁'.symm))
    refine ⟨result, s, s', sh₂, sh₂', more, hloop, (loop_of_round_eq_none hround').trans hloop',
      halike₂, hmore, ?_, hrest.trans hchildren'.symm⟩
    rw [hmore', hout']

end Loop

/-! ### Runs of the shell -/

section Run

variable {ω η π : Type} [Console ω] [Console.Collects ω] [Machine η]

omit [Console.Collects ω] in
/-- The children among the events of a run are those of its turns. -/
theorem filter_isSpawn_turns {ρ : Type} [LineSource ρ (ω × η)] (prompt : String) (source : ρ)
    (sh : Shell (ω × η)) {last : List Event}
    (hlast : last = [] ∨ ∃ answer, last = [.read answer]) :
    ((turns Table.standard prompt source sh).flatMap Turn.log ++ last).filter Event.isSpawn =
      children prompt source sh := by
  have hnone : last.filter Event.isSpawn = [] := by
    obtain rfl | ⟨answer, rfl⟩ := hlast <;> rfl
  rw [List.filter_append, hnone, List.append_nil, List.filter_flatMap]
  rfl

omit [Console.Collects ω] in
/-- A run on a stage that is `Watched`, and the children among its events. -/
theorem repl_watched {ρ : Type} [LineSource ρ (ω × η)] (prompt : String) (source : ρ)
    {sh : Shell (ω × η)} (hknows : sh.scene.session.KnowsBuiltins)
    {result : Except Fault Status} {source' : ρ} {sh' : Shell (ω × η)}
    (hrun : repl Table.standard prompt source sh = (result, source', sh')) :
    ∃ events, repl Table.standard prompt (⟨source⟩ : Watched.Source ρ) (sh.watch []) =
        (result, ⟨source'⟩, sh'.watch events) ∧
      events.filter Event.isSpawn =
        children prompt source (sh.note (.started sh.scene.session.dir)) := by
  -- The run begins with a note, which is no event.
  let begun := sh.note (.started sh.scene.session.dir)
  have hbegun : begun.scene.session.KnowsBuiltins := hknows
  obtain ⟨last, hlast, -, hloop⟩ := loop_watched prompt source hbegun
  refine ⟨_, (hloop []).trans ?_, filter_isSpawn_turns prompt source begun hlast⟩
  rw [show loop Table.standard prompt source begun = (result, source', sh') from hrun]
  rfl

variable [Console π] [Console.Collects π]

/-- Blank lines are invisible to a script.  A line is cut into no words exactly if it holds nothing
    but blanks, or blanks and one backslash at its end.  A script whose last line has its line feed
    may get such lines anywhere, as `Script.Padded` says: in a shell of which no exit has been asked
    for, with the prompts on a console of their own, both runs end with the same result and leave
    the same session, status and machine, they write the same, and, as is seen on a stage that is
    `Watched`, they start the same children, with the same outcomes. -/
theorem blank_lines_invisible :
    (∀ line : String, Words.words? line = .ok [] ↔
      Words.Blanks line.toList ∨ ∃ cs, Words.Blanks cs ∧ line.toList = cs ++ ['\\']) ∧
    (∀ bytes : List UInt8, bytes = [] ∨ bytes.getLast? = some Script.lineFeed →
      Script.Padded bytes bytes) ∧
    ∀ (prompt : String) (failure : Option Fault) (bytes padded : List UInt8) (p : π)
      (sh : Shell (ω × η)), Script.Padded bytes padded → sh.scene.session.Reachable →
      sh.scene.session.pendingExit = none → sh.Works → Console.Collects.Works p →
      let script : ScriptApart π := ⟨⟨bytes, failure⟩, p⟩
      let script' : ScriptApart π := ⟨⟨padded, failure⟩, p⟩
      ∃ result s s' sh₁ sh₁' events events',
        repl Table.standard prompt script sh = (result, s, sh₁) ∧
        repl Table.standard prompt script' sh = (result, s', sh₁') ∧
        sh₁.Alike sh₁' ∧ sh₁.written = sh₁'.written ∧
        repl Table.standard prompt (⟨script⟩ : Watched.Source (ScriptApart π)) (sh.watch []) =
          (result, ⟨s⟩, sh₁.watch events) ∧
        repl Table.standard prompt (⟨script'⟩ : Watched.Source (ScriptApart π)) (sh.watch []) =
          (result, ⟨s'⟩, sh₁'.watch events') ∧
        events.filter Event.isSpawn = events'.filter Event.isSpawn := by
  refine ⟨Words.words?_eq_nil_iff, fun bytes => Script.Padded.refl, ?_⟩
  intro prompt failure bytes padded p sh hpadded hreachable hexit hsh hp script script'
  have hknows := hreachable.knowsBuiltins
  -- both runs begin with the same note
  let begun := sh.note (.started sh.scene.session.dir)
  obtain ⟨-, hworks, -⟩ := note_alike (.started sh.scene.session.dir) (.refl sh) hsh
  let rd : Script.Reader (ScriptApart π) ω η := ScriptApart.reader
  have hscript : rd.script script = ⟨bytes, failure⟩ := rfl
  have hscript' : rd.script script' = ⟨padded, failure⟩ := rfl
  have hhere : rd.here prompt = "" := rfl
  have hready : rd.Ready script := hp
  have hready' : rd.Ready script' := hp
  have hbegun : begun.scene.session.KnowsBuiltins := hknows
  obtain ⟨result, s, s', sh₁, sh₁', out, hrun, hrun', halike, hout, hout', hchildren⟩ :=
    loop_padded rd hhere hpadded hscript hscript' hready hready' hworks hworks hbegun hexit
      (.refl begun)
  obtain ⟨events, hwatched, hevents⟩ := repl_watched prompt script hknows hrun
  obtain ⟨events', hwatched', hevents'⟩ := repl_watched prompt script' hknows hrun'
  exact ⟨result, s, s', sh₁, sh₁', events, events', hrun, hrun', halike, hout.trans hout'.symm,
    hwatched, hwatched', hevents.trans (hchildren.trans hevents'.symm)⟩

/-- A script that runs a program and asks for the exit, and the same with an empty line, one with a
    carriage return, and one with blanks and a backslash. -/
theorem blank_lines_invisible_tool :
    let machine : Catalog := {
      paths := [("/bin/tool", ⟨false, 0o755⟩)]
      programs := [("/bin/tool", .exited 3)] }
    let sh : Shell (Sink × Catalog) :=
      start Table.standard { vars := [("PATH", "/bin")], dir := "/" } ({}, machine)
    let tool := "tool".toUTF8.toList
    let exit := "exit".toUTF8.toList
    let bytes := tool ++ Script.lineFeed :: (exit ++ [Script.lineFeed])
    let padded := [] ++ Script.lineFeed :: (tool ++ Script.lineFeed :: ([32, 13] ++
      Script.lineFeed :: ([9, 92] ++ Script.lineFeed :: (exit ++ [Script.lineFeed]))))
    Script.Padded bytes padded ∧ sh.scene.session.Reachable ∧
      sh.scene.session.pendingExit = none ∧ sh.Works ∧
      ∃ result s s' sh₁ sh₁',
        repl Table.standard "$ " (⟨⟨bytes, none⟩, {}⟩ : ScriptApart Sink) sh = (result, s, sh₁) ∧
        repl Table.standard "$ " (⟨⟨padded, none⟩, {}⟩ : ScriptApart Sink) sh =
          (result, s', sh₁') ∧
        sh₁.Alike sh₁' ∧ sh₁.written = sh₁'.written := by
  intro machine sh tool exit bytes padded
  have hempty : Words.words? (Script.lineText (Script.dropReturn [])) = .ok [] := rfl
  have hreturn : Words.words? (Script.lineText (Script.dropReturn [32, 13])) = .ok [] := rfl
  have hbackslash : Words.words? (Script.lineText (Script.dropReturn [9, 92])) = .ok [] := rfl
  have htool : Script.lineFeed ∉ tool := by decide +kernel
  have hexit : Script.lineFeed ∉ exit := by decide +kernel
  have hpadded : Script.Padded bytes padded :=
    .blank (by decide) hempty (.line htool (.blank (by decide) hreturn
      (.blank (by decide) hbackslash (.line hexit .nil))))
  have hreachable : sh.scene.session.Reachable := .start _ (({} : Sink), machine)
  have hworks : sh.Works := rfl
  obtain ⟨-, -, hruns⟩ := @blank_lines_invisible Sink Catalog Sink _ _ _ _ _
  obtain ⟨result, s, s', sh₁, sh₁', -, -, hrun, hrun', halike, hout, -, -, -⟩ :=
    hruns "$ " none bytes padded {} sh hpadded hreachable rfl hworks rfl
  exact ⟨hpadded, hreachable, rfl, hworks, result, s, s', sh₁, sh₁', hrun, hrun', halike, hout⟩

end Run

end Shell

end LineShell
