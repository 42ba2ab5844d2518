import LineShell.Proofs.Shell.Directory
import LineShell.Proofs.Shell.Faults

/-! # Going in two steps

A `cd` along two operands with a slash between them does what two `cd`s do one after the other, if
the first of the two goes anywhere.  The second operand begins where the first one ends, so it must
be neither absolute nor at home.

* `Path.resolve?_slash`          lexical resolution goes through the end of the first path
* `Session.Stands.slash`         with something behind it an operand stands for the same path
* `Session.Goes.slash_iff`       where two operands lead one after the other
* `Shell.cd_composes`            one `cd`, and two -/

namespace LineShell

/-- What stands behind a slash begins where the path before the slash ends. -/
theorem Path.resolve?_slash (base : Octets) {p q : Octets} (hp : p ≠ "")
    (hq : isAbsolute q = false) :
    resolve? base (p ++ "/" ++ q) = (resolve? base p).bind fun at_ => resolve? at_ q := by
  have habs : isAbsolute (p ++ "/" ++ q) = isAbsolute p := by
    rw [String.append_assoc]
    exact isAbsolute_append hp _
  exact resolve?_of_steps base habs (steps_append p q) hq

namespace Session

variable {s : Session} {a b path : String}

/-- An operand is `AtHome` if it is a `~`, or begins with one and a slash. -/
theorem exists_atHome_iff {operand : String} :
    (∃ rest, AtHome operand rest) ↔
      operand.toList = ['~'] ∨ ∃ cs, operand.toList = '~' :: '/' :: cs := by
  constructor
  · rintro ⟨rest, hat⟩
    rw [hat.toList]
    obtain hnil | hslash := hat.follows
    · exact .inl (by rw [hnil])
    · obtain ⟨cs, hcs⟩ := List.head?_eq_some_iff.mp hslash
      exact .inr ⟨cs, by rw [hcs]⟩
  · have hat : ∀ cs, operand.toList = '~' :: cs → operand = "~" ++ String.ofList cs := by
      intro cs hcs
      rw [← String.toList_inj, hcs]
      simp
    rintro (h | ⟨cs, h⟩)
    · exact ⟨"", hat [] h, .inl rfl⟩
    · exact ⟨String.ofList ('/' :: cs), hat _ h, .inr (by simp [Path.isAbsolute])⟩

/-- An operand that is `AtHome` with a slash behind it is so without. -/
theorem exists_atHome_of_slash (ha : a ≠ "") (h : ∃ rest, AtHome (a ++ "/" ++ b) rest) :
    ∃ rest, AtHome a rest := by
  rw [exists_atHome_iff] at h ⊢
  have hlist : (a ++ "/" ++ b).toList = a.toList ++ '/' :: b.toList := by simp
  rw [hlist] at h
  obtain ⟨c, cs, hcs⟩ := List.exists_cons_of_ne_nil (mt String.toList_eq_nil_iff.mp ha)
  rw [hcs] at h ⊢
  cases cs with
  | nil =>
    -- the slash is the second character
    obtain h | ⟨ds, h⟩ := h
    · exact .inl (congrArg ([·]) (List.cons.inj h).1)
    · exact .inl (congrArg ([·]) (List.cons.inj h).1)
  | cons d cs =>
    -- the slash comes later, so the second character decides
    obtain h | ⟨ds, h⟩ := h
    · exact nomatch (List.cons.inj h).2
    · obtain ⟨hc, h⟩ := List.cons.inj h
      obtain ⟨hd, -⟩ := List.cons.inj h
      exact .inr ⟨cs, by rw [hc, hd]⟩

/-- What an operand `Stands` for is not empty, unless the operand is. -/
theorem Stands.ne_empty (h : s.Stands a path) (ha : a ≠ "") : path ≠ "" := by
  cases h with
  | home _ _ hne =>
    intro hempty
    rw [String.append_assoc, String.append_eq_empty_iff] at hempty
    exact hne hempty.1
  | itself _ => exact ha

/-- With `b` behind it an operand `Stands` for the same path with `b` behind it. -/
theorem Stands.slash (h : s.Stands a path) (ha : a ≠ "") (b : String) :
    s.Stands (a ++ "/" ++ b) (path ++ "/" ++ b) := by
  cases h with
  | @home home rest hat hhome hne =>
    -- the same home directory, with more behind it
    have hsplit : a ++ "/" ++ b = "~" ++ (rest ++ "/" ++ b) := by
      rw [hat.1]
      simp only [String.append_assoc]
    have habs : Path.isAbsolute (rest ++ "/" ++ b) = true := by
      obtain hnil | hslash := hat.follows
      · simp [Path.isAbsolute, hnil]
      · simp [Path.isAbsolute, hslash]
    have hbehind : AtHome (a ++ "/" ++ b) (rest ++ "/" ++ b) := ⟨hsplit, .inr habs⟩
    have hstands := Stands.home hbehind hhome hne
    simpa only [String.append_assoc] using hstands
  | itself other =>
    refine .itself fun rest hat => ?_
    obtain ⟨rest', hat'⟩ := exists_atHome_of_slash ha ⟨rest, hat⟩
    exact other rest' hat'

variable {η : Type} [Machine η] {w : η} {dir dir' : Octets}

/-- What goes to `dir` stands for a path that leads there. -/
theorem Goes.exists_stands (h : s.Goes w [a] dir) :
    ∃ path, s.Stands a path ∧ Path.resolve? s.dir (Octets.ofText path) = some dir := by
  obtain ⟨path, hstands⟩ | hhomeless := s.stands_or_homeless a
  · exact ⟨path, hstands, (hstands.goes_iff.mp h).1⟩
  · -- without a home directory nothing at home goes anywhere
    obtain ⟨operand, path, hwords, hexpand, -⟩ := h
    obtain rfl := List.singleton_inj.mp hwords
    rw [hhomeless.expandHome_eq] at hexpand
    exact nomatch hexpand

/-- From where `a` leads, `b` leads to where both together lead. -/
theorem Goes.slash_iff (h : s.Goes w [a] dir) (ha : a ≠ "") (hb : Path.isAbsolute b = false)
    (hhome : ∀ rest, ¬AtHome b rest) :
    s.Goes w [a ++ "/" ++ b] dir' ↔ { s with dir }.Goes w [b] dir' := by
  obtain ⟨path, hstands, hpath⟩ := h.exists_stands
  have hfirst : Path.resolve? s.dir (Octets.ofText (path ++ "/" ++ b)) =
      Path.resolve? dir (Octets.ofText b) := by
    -- the slash between the two is one octet, and what is written of `b` is as relative as `b` is
    have hne : Octets.ofText path ≠ "" := mt Octets.ofText_eq_empty_iff.mp (hstands.ne_empty ha)
    have hrelative : Path.isAbsolute (Octets.ofText b) = false := by
      rw [Path.isAbsolute_ofText, hb]
    rw [Path.ofText_slash, Path.resolve?_slash s.dir hne hrelative, hpath, Option.bind_some]
  have hsecond : { s with dir }.Stands b b := .itself hhome
  rw [(hstands.slash ha b).goes_iff, hsecond.goes_iff, hfirst]

end Session

namespace Shell

section

variable {ω η : Type} [Console ω] [Machine η] {sh : Shell (ω × η)} {operand : String}
  {dir : Octets}

/-- A `cd` delivers what `Builtin.answer` decides, behind a note. -/
theorem run_cd (operand : String) (sh : Shell (ω × η)) :
    run Table.standard "cd" [operand] sh =
      let answer := Builtin.cd.answer sh.scene.session sh.scene.stage.2 [operand]
      let ran := (answer.deliver : Act (ω × η) Status).run
        { sh.scene with stage := Console.log (.dispatch "cd" [operand]) sh.scene.stage }
      (ran.1, { sh with scene := ran.2 }) := by
  have hrun := Table.run_builtin .cd [operand] sh.scene
  have hseen : Builtin.cd.answer sh.scene.session sh.scene.stage [operand] =
      Builtin.cd.answer sh.scene.session sh.scene.stage.2 [operand] :=
    Builtin.answer_pair .cd sh.scene.session sh.scene.stage.1 sh.scene.stage.2 [operand]
  rw [hseen] at hrun
  rw [run]
  exact congrArg (fun ran => (ran.1, ({ sh with scene := ran.2 } : Shell (ω × η)))) hrun

/-- A `cd` that goes to a directory writes nothing, so it cannot fail, whatever the console is. -/
theorem run_cd_of_goes (h : sh.scene.session.Goes sh.scene.stage.2 [operand] dir) :
    ∃ rs, run Table.standard "cd" [operand] sh =
      (.ok 0, { sh with scene := ⟨{ sh.scene.session with dir },
        (Console.logAll rs sh.scene.stage.1, sh.scene.stage.2)⟩ }) := by
  obtain ⟨findings, hanswer⟩ := Builtin.answer_of_goes h
  let rs : List Record := .dispatch "cd" [operand] :: findings
  have hstage : Console.logAll rs sh.scene.stage =
      (Console.logAll rs sh.scene.stage.1, sh.scene.stage.2) :=
    Console.logAll_pair rs sh.scene.stage.1 sh.scene.stage.2
  refine ⟨rs, ?_⟩
  rw [run_cd, hanswer, ← hstage]
  rfl

/-- A `cd` that goes nowhere ends with status 1, if its message can be written. -/
theorem status_run_cd (h : ∀ dir, ¬sh.scene.session.Goes sh.scene.stage.2 [operand] dir)
    {status : Status} (hrun : (run Table.standard "cd" [operand] sh).1 = .ok status) :
    status = 1 := by
  cases hdir : sh.scene.session.destination sh.scene.stage.2 operand with
  | ok dir => exact absurd (Builtin.destination_eq_ok.mp hdir) (h dir)
  | error r =>
    rw [run_cd, Builtin.answer_cd_error hdir] at hrun
    rcases hsaid : Console.putAll (r.texts ++ ["\n"])
      (Console.log (.dispatch "cd" [operand]) sh.scene.stage) with ⟨f | ⟨⟩, stage⟩
    · -- the message is not written, and there is no status
      simp only [Answer.deliver, Act.run_bind, Act.run_say, hsaid] at hrun
      exact nomatch hrun
    · simp only [Answer.deliver, Act.run_bind, Act.run_say, hsaid, Act.run_pure] at hrun
      exact (Except.ok.inj hrun).symm

/-- A `cd` ends with `.ok 0` exactly if it goes to a directory. -/
theorem run_cd_eq_ok_zero_iff :
    (run Table.standard "cd" [operand] sh).1 = .ok 0 ↔
      ∃ dir, sh.scene.session.Goes sh.scene.stage.2 [operand] dir := by
  constructor
  · intro hrun
    -- A `cd` that goes nowhere has status 1, if it has one.
    refine Classical.byContradiction fun hno => ?_
    have hone := status_run_cd (not_exists.mp hno) hrun
    exact absurd hone (by decide)
  · rintro ⟨dir, hgoes⟩
    obtain ⟨rs, hrun⟩ := run_cd_of_goes hgoes
    rw [hrun]

/-- If one `cd` goes to a directory exactly if another one does, then they end with the same
    status. -/
theorem status_run_cd_eq {sh' : Shell (ω × η)} {operand' : String} {status status' : Status}
    (hgoes : (∃ dir, sh.scene.session.Goes sh.scene.stage.2 [operand] dir) ↔
      ∃ dir, sh'.scene.session.Goes sh'.scene.stage.2 [operand'] dir)
    (hrun : (run Table.standard "cd" [operand] sh).1 = .ok status)
    (hrun' : (run Table.standard "cd" [operand'] sh').1 = .ok status') : status = status' := by
  by_cases hgo : ∃ dir, sh.scene.session.Goes sh.scene.stage.2 [operand] dir
  · -- both go to a directory
    have hzero : (run Table.standard "cd" [operand] sh).1 = .ok 0 :=
      run_cd_eq_ok_zero_iff.mpr hgo
    have hzero' : (run Table.standard "cd" [operand'] sh').1 = .ok 0 :=
      run_cd_eq_ok_zero_iff.mpr (hgoes.mp hgo)
    rw [Except.ok.inj (hrun.symm.trans hzero), Except.ok.inj (hrun'.symm.trans hzero')]
  · -- neither does, and each says so
    have hno' := mt hgoes.mpr hgo
    rw [status_run_cd (not_exists.mp hgo) hrun, status_run_cd (not_exists.mp hno') hrun']

/-- On a console that `Works` every `cd` has a status. -/
theorem exists_status_run_cd [Console.Collects ω] (hsh : sh.Works) (operand : String) :
    ∃ status, (run Table.standard "cd" [operand] sh).1 = .ok status := by
  cases hdir : sh.scene.session.destination sh.scene.stage.2 operand with
  | ok dir => exact ⟨0, run_cd_eq_ok_zero_iff.mpr ⟨dir, Builtin.destination_eq_ok.mp hdir⟩⟩
  | error r => exact ⟨1, (cd_leaves_of_refused hsh hdir).result⟩

end

/-- If a `cd` along `a` succeeds, then a `cd` along `a ++ "/" ++ b` ends as a `cd` along `b` does
    that is run after the first one: both succeed or neither does, with the same session if they do
    and the same status in any case, and on a console in working order each of them has one.  The
    first `cd` leaves the machine alone.  Lexical resolution itself goes through the end of the
    first of two paths, whatever the base is, and has no end if there is none. -/
theorem cd_composes {ω η : Type} [Console ω] [Machine η] {sh : Shell (ω × η)} {a b : String}
    (ha : a ≠ "") (hb : Path.isAbsolute b = false)
    (hhome : ∀ rest, ¬Session.AtHome b rest)
    (hgone : (run Table.standard "cd" [a] sh).1 = .ok 0) :
    let there := (run Table.standard "cd" [a] sh).2
    let once := run Table.standard "cd" [a ++ "/" ++ b] sh
    let twice := run Table.standard "cd" [b] there
    there.scene.stage.2 = sh.scene.stage.2 ∧
    (once.1 = .ok 0 ↔ twice.1 = .ok 0) ∧
    (once.1 = .ok 0 → once.2.scene.session = twice.2.scene.session) ∧
    (∀ status status', once.1 = .ok status → twice.1 = .ok status' → status = status') ∧
    (∀ [Console.Collects ω], sh.Works → ∃ status, once.1 = .ok status ∧ twice.1 = .ok status) ∧
    ∀ base p q, p ≠ "" → Path.isAbsolute q = false →
      Path.resolve? base (p ++ "/" ++ q) =
        (Path.resolve? base p).bind fun at_ => Path.resolve? at_ q := by
  intro there once twice
  obtain ⟨dir, hgoes⟩ := run_cd_eq_ok_zero_iff.mp hgone
  obtain ⟨rs, hrun⟩ := run_cd_of_goes hgoes
  -- The first `cd` moves the session and leaves notes on the console, nothing else.
  have hthere : there = { sh with scene := ⟨{ sh.scene.session with dir },
      (Console.logAll rs sh.scene.stage.1, sh.scene.stage.2)⟩ } := congrArg Prod.snd hrun
  -- What the two have in common is where they go, and all the rest is told by that.
  have hsame (dir' : String) : sh.scene.session.Goes sh.scene.stage.2 [a ++ "/" ++ b] dir' ↔
      there.scene.session.Goes there.scene.stage.2 [b] dir' := by
    rw [hthere]
    exact hgoes.slash_iff ha hb hhome
  have hboth : once.1 = .ok 0 ↔ twice.1 = .ok 0 :=
    run_cd_eq_ok_zero_iff.trans ((exists_congr hsame).trans run_cd_eq_ok_zero_iff.symm)
  have hstatus : ∀ status status', once.1 = .ok status → twice.1 = .ok status' →
      status = status' := fun _ _ => status_run_cd_eq (exists_congr hsame)
  refine ⟨by rw [hthere], hboth, fun honce => ?_, hstatus, fun {_} hsh => ?_,
    fun base p q => Path.resolve?_slash base⟩
  · -- they go to the same directory
    obtain ⟨dir', hgo⟩ := run_cd_eq_ok_zero_iff.mp honce
    obtain ⟨_, hdirect⟩ := run_cd_of_goes hgo
    obtain ⟨_, honward⟩ := run_cd_of_goes ((hsame dir').mp hgo)
    show (run _ _ _ sh).2.scene.session = (run _ _ _ there).2.scene.session
    rw [hdirect, honward, hthere]
  · -- the console is in working order for the second of the two as well
    have hworks : there.Works := by
      rw [hthere]
      exact (Console.logAll_works rs hsh).1
    obtain ⟨status, honce⟩ := exists_status_run_cd hsh (a ++ "/" ++ b)
    obtain ⟨status', htwice⟩ := exists_status_run_cd hworks b
    obtain rfl := hstatus status status' honce htwice
    exact ⟨status, honce, htwice⟩

/-- From a relative home directory to the directory beside it, at once and in two steps. -/
theorem cd_composes_home :
    let w : Catalog := { paths := [("/srv/me", ⟨true, 0o755⟩), ("/srv/~x", ⟨true, 0o700⟩)] }
    let s : Session := { vars := [("HOME", "../srv//me")], dir := "/usr" }
    let sh : Shell (Sink × Catalog) := ⟨⟨s, ({}, w)⟩, 0⟩
    (run Table.standard "cd" ["~"] sh).1 = .ok 0 ∧
      (run Table.standard "cd" ["~" ++ "/" ++ "./../~x"] sh).1 = .ok 0 ∧
      (run Table.standard "cd" ["./../~x"] (run Table.standard "cd" ["~"] sh).2).1 = .ok 0 ∧
      (run Table.standard "cd" ["./../~x"] (run Table.standard "cd" ["~"] sh).2).2.scene.session =
        { s with dir := "/srv/~x" } := by
  intro w s sh
  have hat : Session.AtHome "~" "" := ⟨rfl, .inl rfl⟩
  have hstands : s.Stands "~" ("../srv//me" ++ "/" ++ "") := .home hat rfl (by decide)
  have hgoes : s.Goes w ["~"] "/srv/me" :=
    hstands.goes_iff.mpr ⟨by decide +kernel, by decide +kernel⟩
  have hfar : sh.scene.session.Goes sh.scene.stage.2 ["~" ++ "/" ++ "./../~x"] "/srv/~x" :=
    (hstands.slash (by decide) _).goes_iff.mpr ⟨by decide +kernel, by decide +kernel⟩
  have hgone : (run Table.standard "cd" ["~"] sh).1 = .ok 0 :=
    run_cd_eq_ok_zero_iff.mpr ⟨_, hgoes⟩
  -- The second operand begins with a dot.
  have hbehind : ∀ rest, ¬Session.AtHome "./../~x" rest := by
    refine not_exists.mp fun hat => ?_
    obtain h | ⟨cs, h⟩ := Session.exists_atHome_iff.mp hat
    · exact absurd h (by decide)
    · exact absurd (List.cons.inj h).1 (by decide)
  obtain ⟨-, hboth, hsession, -⟩ := cd_composes (by decide) (by decide) hbehind hgone
  have honce : (run Table.standard "cd" ["~" ++ "/" ++ "./../~x"] sh).1 = .ok 0 :=
    run_cd_eq_ok_zero_iff.mpr ⟨_, hfar⟩
  obtain ⟨_, hdirect⟩ := run_cd_of_goes hfar
  have hend := hsession honce
  rw [hdirect] at hend
  exact ⟨hgone, honce, hboth.mp honce, hend.symm⟩

end Shell

end LineShell
