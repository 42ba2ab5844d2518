import LineShell.Machine.Catalog
import LineShell.Machine.Host
import LineShell.Proofs.Lookup
import LineShell.Proofs.Shell.Reachable
import LineShell.Proofs.Shell.Sequence

/-! # What `type` reports

`type` reads the names of the builtins off the session and looks files up on its own, while a
command goes to the first factory of the table that makes one.  In every session that a shell with
the standard table gets into, the two agree on every name.

* `meaning_eq_builtin_iff`, `meaning_eq_file_iff`   what a name means is who handles it
* `meaning_eq_nothing_iff`                          a name that means nothing is not found
* `type_reports`                                    what `type` writes about names is true
* `type_report_lossy`                               a path that is no text is not shown as it is -/

namespace LineShell

/-! ### Meanings and reports -/

/-- What `type` writes about a name with the meaning `m`. -/
def Meaning.report (name : String) (m : Meaning) : String := String.join (m.texts name)

/-- What `type` writes about a name in the session `s` on the machine `w`. -/
def Session.report {η : Type} [Machine η] (s : Session) (w : η) (name : String) : String :=
  (s.meaning w name).report name

namespace Meaning

variable {name shown : String} {path : Octets} {m : Meaning}

theorem report_builtin (name : String) :
    builtin.report name = name ++ " is a shell builtin\n" := by
  simp [report, texts]

/-- The path of a file is shown by `Octets.toText`, as far as it is text. -/
theorem report_file (name : String) (path : Octets) :
    (file path).report name = name ++ (" is " ++ (Octets.toText path ++ "\n")) := by
  simp [report, texts]

theorem report_nothing (name : String) : nothing.report name = name ++ ": not found\n" := by
  simp [report, texts]

/-- A builtin reads like a file whose path is `a shell builtin`. -/
theorem report_builtin_eq (name : String) :
    builtin.report name = name ++ (" is " ++ ("a shell builtin" ++ "\n")) := by
  rw [report_builtin]
  rfl

/-- The report of a file shows one text, which is `Octets.toText` of its path. -/
theorem report_file_eq_iff :
    (file path).report name = name ++ (" is " ++ (shown ++ "\n")) ↔
      Octets.toText path = shown := by
  rw [report_file, String.append_right_inj, String.append_right_inj, String.append_left_inj]

/-- No report with ` is ` behind the name is that of `nothing`. -/
theorem report_nothing_ne : nothing.report name ≠ name ++ (" is " ++ (shown ++ "\n")) := by
  rw [report_nothing]
  intro h
  -- Behind the name comes a colon in the one and a blank in the other.
  have htail := congrArg String.toList ((String.append_right_inj _).mp h)
  simp at htail

/-- The report of `nothing` tells it from every other meaning. -/
theorem report_eq_nothing_iff : m.report name = nothing.report name ↔ m = nothing := by
  cases m with
  | builtin =>
    rw [report_builtin_eq]
    exact ⟨fun h => absurd h.symm report_nothing_ne, nofun⟩
  | file path =>
    rw [report_file]
    exact ⟨fun h => absurd h.symm report_nothing_ne, nofun⟩
  | nothing => simp

/-- The report of `builtin` tells it from every other meaning but that of a file with an odd
    path. -/
theorem report_eq_builtin_iff
    (hm : ∀ path, m = file path → Octets.toText path ≠ "a shell builtin") :
    m.report name = builtin.report name ↔ m = builtin := by
  cases m with
  | builtin => simp
  | file path =>
    rw [report_builtin_eq, report_file_eq_iff]
    exact ⟨fun h => absurd h (hm path rfl), nofun⟩
  | nothing =>
    rw [report_builtin_eq]
    exact ⟨fun h => absurd h report_nothing_ne, nofun⟩

/-- A report that shows a text is that of a file whose path is displayed as the text, unless the
    text is that of a builtin. -/
theorem report_eq_file_iff (hshown : shown ≠ "a shell builtin") :
    m.report name = name ++ (" is " ++ (shown ++ "\n")) ↔
      ∃ path, m = file path ∧ Octets.toText path = shown := by
  cases m with
  | builtin =>
    rw [report_builtin_eq, String.append_right_inj, String.append_right_inj,
      String.append_left_inj]
    exact ⟨fun h => absurd h.symm hshown, nofun⟩
  | file path =>
    rw [report_file_eq_iff]
    constructor
    · intro h
      exact ⟨path, rfl, h⟩
    · rintro ⟨_, ⟨rfl⟩, h⟩
      exact h
  | nothing => exact ⟨fun h => absurd h report_nothing_ne, nofun⟩

end Meaning

/-! ### What becomes of a name -/

namespace Session.KnowsBuiltins

variable {η : Type} [Machine η] {s : Session}

/-- What a name means, told by `Builtin.named?` and not by the session. -/
theorem meaning_eq (hs : s.KnowsBuiltins) (w : η) (name : String) :
    s.meaning w name =
      match Builtin.named? name with
      | some _ => .builtin
      | none => match Lookup.command? w s.searchPath s.dir (Octets.ofText name) with
        | some path => .file path
        | none => .nothing := by
  rw [Session.meaning, hs.isBuiltin_eq]
  cases Builtin.named? name with
  | some b => rfl
  | none => cases Lookup.command? w s.searchPath s.dir (Octets.ofText name) <;> rfl

variable {ω : Type} [Console ω]

/-- A name means a builtin if the factory of a builtin handles it, whatever words follow. -/
theorem meaning_eq_builtin_iff (hs : s.KnowsBuiltins) (o : ω) (w : η) (name : String)
    (words : List String) :
    s.meaning w name = .builtin ↔
      ∃ f c, (Table.standard : Table (ω × η)).handler? s (o, w) name words = some (f, c) ∧
        f.builtinName.isSome := by
  rw [hs.meaning_eq, Table.handler?_standard]
  cases Builtin.named? name with
  | some b => exact ⟨fun _ => ⟨_, _, rfl, rfl⟩, fun _ => rfl⟩
  | none =>
    rw [Lookup.command?_pair]
    cases Lookup.command? w s.searchPath s.dir (Octets.ofText name) with
    | some path => simp [External.factory]
    | none => simp

/-- A name means a file if the command is `External.command` for the path of the file, whatever
    words follow. -/
theorem meaning_eq_file_iff (hs : s.KnowsBuiltins) (o : ω) (w : η) (name : String)
    (path : Octets) (words : List String) :
    s.meaning w name = .file path ↔
      (Table.standard : Table (ω × η)).handler? s (o, w) name words =
        some (External.factory, External.command s name path words) := by
  rw [hs.meaning_eq, Table.handler?_standard]
  cases Builtin.named? name with
  | some b =>
    refine ⟨nofun, fun h => ?_⟩
    -- A builtin is made by a factory with a name of its own.
    have hname := congrArg (·.map (·.1.builtinName)) h
    exact nomatch hname
  | none =>
    rw [Lookup.command?_pair]
    cases Lookup.command? w s.searchPath s.dir (Octets.ofText name) with
    | some path' =>
      refine ⟨fun h => ?_, fun h => ?_⟩
      · cases h
        rfl
      · -- The command names its file in what the log says about it.
        have hfindings := congrArg (·.map (·.2.findings)) h
        simpa [External.command] using hfindings
    | none => simp

end Session.KnowsBuiltins

/-- A builtin that ends with `Status.notFound` writes nothing. -/
theorem Builtin.effect_text_of_notFound {η : Type} [Machine η] {b : Builtin} {s : Session} {w : η}
    {words : List String}
    (h : ((b.answer s w words).effect s w).answer = .ok Status.notFound) :
    ((b.answer s w words).effect s w).text = "" := by
  rw [answer_eq] at h ⊢
  cases hsurplus : b.surplus? words with
  | some word =>
    rw [hsurplus] at h
    have hstatus : (2 : Status) = Status.notFound := Except.ok.inj h
    exact absurd hstatus (by decide)
  | none =>
    rw [hsurplus] at h
    dsimp only at h ⊢
    cases b with
    | exit =>
      -- `exit 127` ends with 127 too, but in silence.
      simp only [verdict] at h ⊢
      cases hhead : words.head? with
      | none => rfl
      | some word =>
        rw [hhead] at h
        dsimp only at h ⊢
        cases hstatus : Status.ofWord? word with
        | none => simp [hstatus, Answer.effect, Status.notFound] at h
        | some status => rfl
    | echo => simp [verdict, Answer.effect, Status.notFound] at h
    | pwd => simp [verdict, Answer.effect, Status.notFound] at h
    | cd =>
      simp only [verdict] at h
      cases hhead : words.head? with
      | none => simp [hhead, Answer.effect, Status.notFound] at h
      | some target =>
        rw [hhead] at h
        dsimp only at h
        cases hdir : s.destination w target with
        | error r => simp [hdir, Answer.effect, Status.notFound] at h
        | ok dir => simp [hdir, Answer.effect, Status.notFound] at h
    | type =>
      simp only [verdict] at h
      split at h
      · simp [Answer.effect, Status.notFound] at h
      · simp only [Answer.effect, Except.ok.injEq] at h
        split at h <;> simp [Status.notFound] at h

/-- The file that a name means is the one that `Lookup.command?` finds. -/
theorem Session.command?_of_meaning {η : Type} [Machine η] {s : Session} {w : η} {name : String}
    {path : Octets} (h : s.meaning w name = .file path) :
    Lookup.command? w s.searchPath s.dir (Octets.ofText name) = some path := by
  rw [meaning] at h
  split at h
  · cases h
  · cases hfile : Lookup.command? w s.searchPath s.dir (Octets.ofText name) with
    | none =>
      rw [hfile] at h
      cases h
    | some found =>
      rw [hfile] at h
      rw [Meaning.file.inj h]

/-- No file that `Lookup.command?` finds has a report that reads like that of a builtin. -/
theorem Session.toText_ne_of_meaning {η : Type} [Machine η] {s : Session} {w : η} {name : String}
    {path : Octets} (h : s.meaning w name = .file path) :
    Octets.toText path ≠ "a shell builtin" := by
  obtain hslash | rfl | rfl := Lookup.slash_mem_of_command? (command?_of_meaning h)
  · -- the slash is shown, and no slash is in the phrase
    have hshown := Octets.mem_toText (c := '/') (by decide) hslash
    intro hphrase
    rw [hphrase] at hshown
    exact absurd hshown (by decide)
  · decide
  · decide

/-- From a directory that is a text, a name means a file whose path is a text. -/
theorem Session.isText_of_meaning {η : Type} [Machine η] {s : Session} {w : η} {name : String}
    {path : Octets} (hdir : Octets.isText s.dir = true) (h : s.meaning w name = .file path) :
    Octets.isText path = true := by
  have hpath : Octets.isText s.searchPath = true := Octets.isText_iff.mpr ⟨_, rfl⟩
  have hname : Octets.isText (Octets.ofText name) = true := Octets.isText_iff.mpr ⟨name, rfl⟩
  exact Lookup.isText_of_command? hpath hdir hname (command?_of_meaning h)

/-- A name means `nothing` if running it writes that it is not found, with `Status.notFound`. -/
theorem Session.KnowsBuiltins.meaning_eq_nothing_iff {η : Type} [Machine η] {s : Session}
    (hs : s.KnowsBuiltins) (w : η) (name : String) (words : List String) :
    s.meaning w name = .nothing ↔
      (Table.standardEffect s w name words).answer = .ok Status.notFound ∧
        (Table.standardEffect s w name words).text = name ++ ": not found\n" := by
  rw [hs.meaning_eq, Table.standardEffect]
  cases Builtin.named? name with
  | some b =>
    constructor
    · intro h
      cases h
    · intro h
      -- A builtin with this status is silent, so it has not written the message.
      dsimp only at h
      have htext := h.2
      rw [Builtin.effect_text_of_notFound h.1] at htext
      simpa using congrArg String.toList htext
  | none =>
    cases Lookup.command? w s.searchPath s.dir (Octets.ofText name) with
    | some path =>
      constructor
      · intro h
        cases h
      · intro h
        have htext := h.2
        -- A file that is found either starts, in silence, or is reported with another text.
        dsimp only [External.effect] at htext
        split at htext
        · simpa using congrArg String.toList htext
        · simpa using congrArg String.toList htext
        · have htail := (String.append_right_inj _).mp htext
          exact absurd htail (by decide)
    | none => exact ⟨fun _ => ⟨rfl, rfl⟩, fun _ => rfl⟩

/-- What `type` does with some names: one report for each, and the status tells whether there is one
    that is not found. -/
theorem Table.standardEffect_type {η : Type} [Machine η] [Arguments.Reader] (s : Session) (w : η)
    {names : List String} (h : names ≠ []) :
    standardEffect s w "type" names =
      ⟨.ok (if ∀ n ∈ names, s.report w n ≠ n ++ ": not found\n" then 0 else 1), s, w,
        String.join (names.map (s.report w))⟩ := by
  have hreport : ∀ n, s.report w n ≠ n ++ ": not found\n" ↔ s.meaning w n ≠ .nothing := by
    intro n
    rw [Ne, ← Meaning.report_nothing, Session.report, Meaning.report_eq_nothing_iff]
  -- The texts are collected name by name, the reports as well.
  have htexts : String.join (names.flatMap fun n => (s.meaning w n).texts n) =
      String.join (names.map (s.report w)) := by
    clear h
    induction names with
    | nil => rfl
    | cons n names ih =>
      rw [List.flatMap_cons, String.join_append, ih, List.map_cons, String.join_cons]
      rfl
  have hstatus : (∀ n ∈ names, s.report w n ≠ n ++ ": not found\n") ↔
      names.all (fun n => s.meaning w n ≠ .nothing) = true := by
    simp only [hreport, List.all_eq_true, decide_eq_true_eq]
  have hanswer : Builtin.type.answer s w names =
      .done s (names.flatMap fun n => (s.meaning w n).texts n)
        (if names.all fun n => s.meaning w n ≠ .nothing then 0 else 1) [] := by
    simp only [Builtin.answer_eq, Builtin.surplus?, Builtin.limit?, Option.bind_none,
      Builtin.verdict, if_neg h]
  refine (standardEffect_builtin s w .type names).trans ?_
  rw [hanswer, Answer.effect, htexts]
  simp only [hstatus]

namespace Shell

variable {ω η : Type} [Console ω] [Console.Collects ω] [Machine η]

/-- What `type` writes about names is true: one report for each name, and a report says that the
    name is a builtin, a file or nothing exactly if that is what becomes of it, whatever words
    follow it.  A file is reported by what `Octets.toText` shows of the path of its command; in a
    session whose directory is a text, `Octets.isText`, that is the path itself. -/
theorem type_reports {sh : Shell (ω × η)} (hs : sh.scene.session.Reachable) (hsh : sh.Works) :
    let s := sh.scene.session
    let report := s.report sh.scene.stage.2
    let table : Table (ω × η) := Table.standard
    (∀ names, names ≠ [] → ∃ sh', run table "type" names sh =
        (.ok (if ∀ n ∈ names, report n ≠ n ++ ": not found\n" then 0 else 1), sh') ∧
      sh'.Alike sh ∧ sh'.written = sh.written ++ String.join (names.map report)) ∧
    ∀ name words,
      (report name = name ++ " is a shell builtin\n" ↔
        ∃ f c, table.handler? s sh.scene.stage name words = some (f, c) ∧
          f.builtinName.isSome) ∧
      (∀ shown, report name = name ++ " is " ++ shown ++ "\n" ∧ shown ≠ "a shell builtin" ↔
        ∃ path, Octets.toText path = shown ∧
          table.handler? s sh.scene.stage name words =
            some (External.factory, External.command s name path words)) ∧
      (Octets.isText s.dir = true → ∀ path,
        report name = name ++ " is " ++ path ++ "\n" ∧ path ≠ "a shell builtin" ↔
          table.handler? s sh.scene.stage name words =
            some (External.factory, External.command s name (Octets.ofText path) words)) ∧
      (report name = name ++ ": not found\n" ↔
        ∃ sh', run table name words sh = (.ok 127, sh') ∧
          sh'.written = sh.written ++ (name ++ ": not found\n")) := by
  intro s report table
  have hknows := hs.knowsBuiltins
  -- a report of a file is told by the meaning of the name
  have hfile (name shown : String) :
      report name = name ++ " is " ++ shown ++ "\n" ∧ shown ≠ "a shell builtin" ↔
        ∃ path, Octets.toText path = shown ∧
          s.meaning sh.scene.stage.2 name = .file path := by
    rw [String.append_assoc, String.append_assoc]
    constructor
    · rintro ⟨hreport, hshown⟩
      obtain ⟨path, hmeaning, hpath⟩ := (Meaning.report_eq_file_iff hshown).mp hreport
      exact ⟨path, hpath, hmeaning⟩
    · rintro ⟨path, rfl, hmeaning⟩
      have hshown := Session.toText_ne_of_meaning hmeaning
      exact ⟨(Meaning.report_eq_file_iff hshown).mpr ⟨path, hmeaning, rfl⟩, hshown⟩
  refine ⟨fun names hnames => ?_,
    fun name words => ⟨?_, fun shown => ?_, fun hdir path => ?_, ?_⟩⟩
  · -- what `type` writes
    obtain ⟨o, hrun, -, hout⟩ := run_standard "type" names hsh
    rw [Table.standardEffect_type _ _ hnames] at hrun hout
    exact ⟨_, hrun, ⟨rfl, rfl, rfl⟩, hout⟩
  · -- builtins
    rw [← Meaning.report_builtin, ← hknows.meaning_eq_builtin_iff]
    exact Meaning.report_eq_builtin_iff fun path => Session.toText_ne_of_meaning
  · -- files, as they are shown
    rw [hfile]
    exact exists_congr fun path => and_congr_right fun _ =>
      hknows.meaning_eq_file_iff sh.scene.stage.1 sh.scene.stage.2 name path words
  · -- files whose paths are texts
    rw [hfile]
    refine Iff.trans ?_ (hknows.meaning_eq_file_iff sh.scene.stage.1 sh.scene.stage.2 name _ words)
    constructor
    · rintro ⟨found, rfl, hmeaning⟩
      obtain ⟨text, rfl⟩ := Octets.isText_iff.mp (Session.isText_of_meaning hdir hmeaning)
      rwa [Octets.toText_ofText]
    · intro hmeaning
      exact ⟨_, Octets.toText_ofText path, hmeaning⟩
  · -- names that mean nothing
    obtain ⟨o, hrun, -, hout⟩ := run_standard name words hsh
    have hmeaning : report name = name ++ ": not found\n" ↔
        s.meaning sh.scene.stage.2 name = .nothing := by
      rw [← Meaning.report_nothing]
      exact Meaning.report_eq_nothing_iff
    rw [hmeaning, hknows.meaning_eq_nothing_iff sh.scene.stage.2 name words, hrun]
    constructor
    · rintro ⟨hanswer, htext⟩
      refine ⟨_, Prod.ext hanswer rfl, ?_⟩
      rw [← htext]
      exact hout
    · rintro ⟨sh', hrun', hout'⟩
      obtain ⟨hanswer, rfl⟩ := Prod.mk.inj hrun'
      exact ⟨hanswer, (String.append_right_inj _).mp (hout.symm.trans hout')⟩

/-- A builtin and a name that means nothing, after a turn that has asked for the exit. -/
theorem type_reports_two :
    let sh : Shell (Sink × Host) := start Table.standard { vars := [("HOME", "/")], dir := "/" }
      ({}, .ofFiles {} fun _ => .ended (.exited 0))
    let sh' := (execute Table.standard "exit 3" sh).2
    sh'.scene.session.Reachable ∧ sh'.Works ∧
      ∃ sh'', run Table.standard "type" ["cd", "nope"] sh' = (.ok 1, sh'') ∧
        sh''.written = "cd is a shell builtin\nnope: not found\n" := by
  intro sh sh'
  have hs : sh'.scene.session.Reachable := by
    unfold sh'
    exact .execute "exit 3" sh (.start _ sh.scene.stage)
  have hsh : sh'.Works := by
    show sh'.scene.stage.1.mode = .ok
    decide +kernel
  obtain ⟨sh'', hrun, -, hout⟩ := (type_reports hs hsh).1 ["cd", "nope"] (by decide)
  have hcd : sh'.scene.session.report sh'.scene.stage.2 "cd" = "cd is a shell builtin\n" := by
    decide +kernel
  have hnope : sh'.scene.session.report sh'.scene.stage.2 "nope" = "nope: not found\n" := by
    decide +kernel
  have hstart : sh'.written = "" := by decide +kernel
  simp only [hcd, hnope, hstart, List.map_cons, List.map_nil, List.forall_mem_cons] at hrun hout
  exact ⟨hs, hsh, sh'', hrun, hout⟩

/-- In a directory whose name holds the octet FF, which is no text, `type` shows another path than
    that of the command: no path is the one that is reported exactly if it is that of the
    command. -/
theorem type_report_lossy :
    let there : Catalog := { paths := [("/\xff/./tool", ⟨false, 0o755⟩)] }
    let sh : Shell (Sink × Catalog) := start Table.standard { dir := "/\xff" } ({}, there)
    let s := sh.scene.session
    let reported (path : Octets) : Prop :=
      Octets.ofText (s.report there "./tool") = Octets.ofText "./tool is " ++ path ++ "\n"
    let created (path : Octets) : Prop :=
      (Table.standard : Table (Sink × Catalog)).handler? s sh.scene.stage "./tool" [] =
        some (External.factory, External.command s "./tool" path [])
    s.Reachable ∧ sh.Works ∧ s.report there "./tool" = "./tool is /\uFFFD/./tool\n" ∧
      created "/\xff/./tool" ∧ ¬∀ path, reported path ↔ created path := by
  intro there sh s reported created
  have hs : s.Reachable := .start _ sh.scene.stage
  have hreport : s.report there "./tool" = "./tool is /\uFFFD/./tool\n" := by decide +kernel
  have hmeaning : s.meaning there "./tool" = .file "/\xff/./tool" := by decide +kernel
  have hcreated : created "/\xff/./tool" :=
    (hs.knowsBuiltins.meaning_eq_file_iff ({} : Sink) there "./tool" _ []).mp hmeaning
  have hlossy : ¬reported "/\xff/./tool" := by
    show ¬Octets.ofText (s.report there "./tool") = _
    rw [hreport]
    decide +kernel
  exact ⟨hs, rfl, hreport, hcreated, fun h => hlossy ((h _).mpr hcreated)⟩

end Shell

end LineShell
