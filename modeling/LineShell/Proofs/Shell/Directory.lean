import LineShell.Machine.Catalog
import LineShell.Proofs.Command.Session
import LineShell.Proofs.Path.Stack
import LineShell.Proofs.Shell.Sequence
import LineShell.Proofs.Text.Octets

/-! # Where `cd` goes

What `cd` does with an operand, from the text of the operand to the session that is left.  An
operand that is a `~`, alone or before a slash, stands for the text of the home directory with a
slash and the rest behind it; every other operand stands for itself.  `cd` goes to where that text
leads from the current directory, if that is a directory, and refuses otherwise.

* `Session.Stands.resolve?_eq`   the home directory and the rest lead to where their text leads
* `Shell.cd_goes`                what `cd` does with any operand -/

namespace LineShell

/-- The operand begins with the home directory: it is a `~`, and what comes after is nothing or
    begins with a slash. -/
def Session.AtHome (operand rest : String) : Prop :=
  operand = "~" ++ rest ∧ (rest = "" ∨ Path.isAbsolute rest = true)

/-- The path that an operand of `cd` stands for in a session: one in the home directory for an
    operand that is `AtHome`, and else the operand itself. -/
inductive Session.Stands (s : Session) (operand : String) : String → Prop
  | home {home rest : String} (athome : AtHome operand rest) (hhome : s.var? "HOME" = some home)
      (hne : home ≠ "") : Stands s operand (home ++ "/" ++ rest)
  | itself (other : ∀ rest, ¬AtHome operand rest) : Stands s operand operand

/-- The operand needs a home directory, and `HOME` is not there or empty. -/
def Session.Homeless (s : Session) (operand : String) : Prop :=
  (∃ rest, AtHome operand rest) ∧ (s.var? "HOME" = none ∨ s.var? "HOME" = some "")

namespace Session

variable {s : Session} {operand path rest : String}

/-- An operand that is `AtHome`, as its characters. -/
theorem AtHome.toList (h : AtHome operand rest) : operand.toList = '~' :: rest.toList := by
  rw [h.1, String.toList_append]
  rfl

/-- What comes after the `~` is nothing, or begins with a slash. -/
theorem AtHome.follows (h : AtHome operand rest) :
    rest.toList = [] ∨ rest.toList.head? = some '/' := by
  obtain rfl | habs := h.2
  · exact .inl rfl
  · rw [Path.isAbsolute, beq_iff_eq] at habs
    exact .inr habs

/-- A home directory is a value of `HOME` that is not empty. -/
theorem home?_eq_some_iff {home : String} :
    s.home? = some home ↔ s.var? "HOME" = some home ∧ home ≠ "" := by
  simp [home?, Option.filter_eq_some_iff]

/-- There is no home directory if `HOME` is not there or empty. -/
theorem home?_eq_none_iff : s.home? = none ↔ s.var? "HOME" = none ∨ s.var? "HOME" = some "" := by
  rw [home?]
  cases hvar : s.var? "HOME" with
  | none => simp
  | some home => simp

/-- An operand that is not `AtHome` is not expanded. -/
theorem expandHome_of_other (h : ∀ rest, ¬AtHome operand rest) :
    s.expandHome operand = .ok operand := by
  unfold expandHome
  split
  · rename_i rest hlist
    split
    · rename_i hfollows
      -- Expanded is only what begins with a `~`, alone or before a slash.
      refine absurd ⟨?_, ?_⟩ (h (String.ofList rest))
      · rw [← String.toList_inj, hlist]
        simp
      · simpa [Path.isAbsolute] using hfollows
    · rfl
  · rfl

/-- An operand that is `AtHome` becomes a path inside the home directory, if there is one. -/
theorem AtHome.expandHome_eq (h : AtHome operand rest) :
    s.expandHome operand =
      match s.home? with
      | none => .error .homeNotSet
      | some home =>
        let inside := rest.toList.dropWhile (· = '/')
        .ok (if inside = [] then home else Path.join home (String.ofList inside)) := by
  unfold expandHome
  rw [h.toList]
  exact if_pos h.follows

/-- An operand that is `Homeless` is refused. -/
theorem Homeless.expandHome_eq (h : s.Homeless operand) :
    s.expandHome operand = .error .homeNotSet := by
  obtain ⟨⟨rest, hat⟩, hnone⟩ := h
  rw [hat.expandHome_eq, home?_eq_none_iff.mpr hnone]

/-- However many slashes stand behind `home ++ "/"`, what follows them is looked for from where
    `home` leads. -/
theorem resolve?_ofText (base : Octets) {home : String} (hne : home ≠ "") (rest : String) :
    Path.resolve? base (Octets.ofText (home ++ "/" ++ rest)) =
      (Path.resolve? base (Octets.ofText home)).bind fun dir =>
        Path.resolve? dir
          (Octets.ofText (String.ofList (rest.toList.dropWhile (· = '/')))) := by
  have hwritten := Octets.dropWhile_ofText (c := '/') (by decide) rest.toList
  rw [String.ofList_toList] at hwritten
  rw [Path.ofText_slash, Path.resolve?_append base (mt Octets.ofText_eq_empty_iff.mp hne), hwritten,
    String.ofList_toList]

/-- The path that `expandHome` makes of an operand leads to where the path leads that it stands
    for. -/
theorem Stands.resolve?_eq (h : s.Stands operand path) :
    ∃ path', s.expandHome operand = .ok path' ∧
      ∀ base, Path.resolve? base (Octets.ofText path') =
        Path.resolve? base (Octets.ofText path) := by
  cases h with
  | @home home rest hat hhome hne =>
    have hexpand := hat.expandHome_eq (s := s)
    rw [home?_eq_some_iff.mpr ⟨hhome, hne⟩] at hexpand
    refine ⟨_, hexpand, fun base => ?_⟩
    rw [resolve?_ofText base hne]
    split
    · -- nothing but slashes: the walk stays where the home directory leads
      rename_i hinside
      rw [hinside]
      exact (Option.bind_fun_some _).symm
    · -- the rest lies inside the home directory, in octets as in text
      rw [← Path.join_ofText]
      refine Path.resolve?_join base (mt Octets.ofText_eq_empty_iff.mp hne) ?_
      rw [Path.isAbsolute_ofText, Path.isAbsolute_dropSlashes]
  | itself other => exact ⟨operand, expandHome_of_other other, fun _ => rfl⟩

/-- An operand `Stands` for a path, unless it is `Homeless`. -/
theorem stands_or_homeless (s : Session) (operand : String) :
    (∃ path, s.Stands operand path) ∨ s.Homeless operand := by
  -- Whether there is a home directory matters only to an operand that begins with it.
  by_cases hat : ∃ rest, AtHome operand rest
  · cases hhome : s.home? with
    | none => exact .inr ⟨hat, home?_eq_none_iff.mp hhome⟩
    | some home =>
      obtain ⟨rest, hat⟩ := hat
      obtain ⟨hvar, hne⟩ := home?_eq_some_iff.mp hhome
      exact .inl ⟨_, .home hat hvar hne⟩
  · exact .inl ⟨operand, .itself (not_exists.mp hat)⟩

variable {η : Type} [Machine η] {w : η} {dir : Octets}

/-- With an operand that stands for `path`, `cd` goes to where `path` leads, if that is a
    directory. -/
theorem Stands.goes_iff (h : s.Stands operand path) :
    s.Goes w [operand] dir ↔
      Path.resolve? s.dir (Octets.ofText path) = some dir ∧ Machine.isDirectory w dir = true := by
  obtain ⟨path', hpath', hsame⟩ := h.resolve?_eq
  constructor
  · rintro ⟨_, _, hwords, hexpand, hgoes⟩
    obtain rfl := List.singleton_inj.mp hwords
    rw [hpath'] at hexpand
    obtain rfl := Except.ok.inj hexpand
    rwa [hsame] at hgoes
  · intro hgoes
    refine ⟨operand, path', rfl, hpath', ?_⟩
    rwa [hsame]

/-- An operand whose path leads to no directory is refused, and the refusal names the operand. -/
theorem Stands.destination_eq_error (h : s.Stands operand path)
    (hno : ∀ dir, ¬(Path.resolve? s.dir (Octets.ofText path) = some dir ∧
      Machine.isDirectory w dir = true)) :
    s.destination w operand = .error (.noSuchDirectory operand) := by
  obtain ⟨path', hpath', hsame⟩ := h.resolve?_eq
  simp only [destination, hpath', bind, Except.bind]
  rw [hsame]
  cases hdir : Path.resolve? s.dir (Octets.ofText path) with
  | none => rfl
  | some dir => exact if_neg fun hisdir => hno dir ⟨hdir, hisdir⟩

/-- An operand that is `Homeless` is refused, and the refusal names `HOME`. -/
theorem Homeless.destination_eq_error (h : s.Homeless operand) :
    s.destination w operand = .error .homeNotSet := by
  simp only [destination, h.expandHome_eq, bind, Except.bind]

end Session

namespace Shell

variable {ω η : Type} [Console ω] [Console.Collects ω] [Machine η]

/-- What a command leaves behind that ends with `status`: the session `s` and the text `out`, and
    nothing else that is not as it was. -/
structure Leaves (sh : Shell (ω × η)) (ran : Except Fault Status × Shell (ω × η))
    (status : Status) (s : Session) (out : String) : Prop where
  result : ran.1 = .ok status
  session : ran.2.scene.session = s
  written : ran.2.written = sh.written ++ out
  machine : ran.2.scene.stage.2 = sh.scene.stage.2
  lastStatus : ran.2.lastStatus = sh.lastStatus

section

variable {sh : Shell (ω × η)} {operand : String}

/-- A command that leaves the machine alone leaves behind what `Table.standardEffect` says. -/
theorem leaves_of_effect [Arguments.Reader] (hsh : sh.Works) {name : String} {words : List String}
    {status : Status} {s : Session} {out : String}
    (heffect : Table.standardEffect sh.scene.session sh.scene.stage.2 name words =
      ⟨.ok status, s, sh.scene.stage.2, out⟩) :
    sh.Leaves (run Table.standard name words sh) status s out := by
  obtain ⟨o, hrun, -, hout⟩ := run_standard name words hsh
  rw [heffect] at hrun hout
  rw [hrun]
  exact ⟨rfl, rfl, hout, rfl, rfl⟩

/-- A `cd` that goes to `dir` leaves the session there, in silence. -/
theorem cd_leaves_of_goes (hsh : sh.Works) {dir : Octets}
    (h : sh.scene.session.Goes sh.scene.stage.2 [operand] dir) :
    sh.Leaves (run Table.standard "cd" [operand] sh) 0 { sh.scene.session with dir } "" := by
  obtain ⟨findings, hanswer⟩ := Builtin.answer_of_goes h
  refine leaves_of_effect hsh ((Table.standardEffect_builtin _ _ .cd [operand]).trans ?_)
  rw [hanswer]
  rfl

/-- A `cd` that is refused leaves the session as it was, and the text of the refusal. -/
theorem cd_leaves_of_refused (hsh : sh.Works) {r : Refusal}
    (h : sh.scene.session.destination sh.scene.stage.2 operand = .error r) :
    sh.Leaves (run Table.standard "cd" [operand] sh) 1 sh.scene.session
      (String.join r.texts ++ "\n") := by
  refine leaves_of_effect hsh ((Table.standardEffect_builtin _ _ .cd [operand]).trans ?_)
  rw [Builtin.answer_cd_error h]
  rfl

end

/-- What `cd` does with any operand.  It goes to where the octets of the path lead that the operand
    `Stands` for, in silence, exactly if that is a directory; otherwise, and if the operand is
    `Homeless`, it leaves the session as it was and says why.  Whatever slashes follow a `~`, what
    comes after them is looked for from the home directory. -/
theorem cd_goes {sh : Shell (ω × η)} (hsh : sh.Works) (operand : String) :
    let s := sh.scene.session
    let w := sh.scene.stage.2
    let ran := run Table.standard "cd" [operand] sh
    ((∃ path, s.Stands operand path) ∨ s.Homeless operand) ∧
    (∀ path, s.Stands operand path →
      (∀ dir, sh.Leaves ran 0 { s with dir } "" ↔
        Path.resolve? s.dir (Octets.ofText path) = some dir ∧
          Machine.isDirectory w dir = true) ∧
      ((∀ dir, ¬(Path.resolve? s.dir (Octets.ofText path) = some dir ∧
          Machine.isDirectory w dir = true)) →
        sh.Leaves ran 1 s ("cd: " ++ operand ++ ": No such file or directory\n"))) ∧
    (s.Homeless operand → sh.Leaves ran 1 s "cd: HOME not set\n") ∧
    (∀ home rest, Session.AtHome operand rest → s.var? "HOME" = some home → home ≠ "" →
      Path.resolve? s.dir (Octets.ofText (home ++ "/" ++ rest)) =
        (Path.resolve? s.dir (Octets.ofText home)).bind fun dir =>
          Path.resolve? dir
            (Octets.ofText (String.ofList (rest.toList.dropWhile (· = '/'))))) := by
  intro s w ran
  refine ⟨s.stands_or_homeless operand, fun path hpath => ⟨fun dir => ?_, fun hno => ?_⟩,
    fun hhomeless => ?_, fun home rest _ _ hne => Session.resolve?_ofText s.dir hne rest⟩
  · -- `cd` goes to a directory
    constructor
    · intro hleaves
      by_cases hgoes : ∃ dir', s.Goes w [operand] dir'
      · obtain ⟨dir', hgoes⟩ := hgoes
        -- Two places to which one `cd` goes are one, as its session has one directory.
        have hsession := (cd_leaves_of_goes hsh hgoes).session.symm.trans hleaves.session
        obtain rfl : dir' = dir := congrArg Session.dir hsession
        exact hpath.goes_iff.mp hgoes
      · -- A `cd` that goes nowhere ends with status 1.
        have hno := hpath.destination_eq_error (w := w) fun dir' h =>
          hgoes ⟨dir', hpath.goes_iff.mpr h⟩
        have hresult := (cd_leaves_of_refused hsh hno).result.symm.trans hleaves.result
        exact absurd (Except.ok.inj hresult) (by decide)
    · intro hgoes
      exact cd_leaves_of_goes hsh (hpath.goes_iff.mpr hgoes)
  · -- the path leads to no directory
    have hleaves := cd_leaves_of_refused hsh (hpath.destination_eq_error hno)
    simpa [Refusal.texts, String.append_assoc] using hleaves
  · -- there is no home directory
    have hleaves := cd_leaves_of_refused hsh hhomeless.destination_eq_error
    simpa [Refusal.texts] using hleaves

/-- A home directory that is relative and holds a `~`, with more slashes behind it than needed; an
    operand that is not at home; and one that is, after the home directory has become empty. -/
theorem cd_goes_home :
    let w : Catalog := { paths := [("/srv/~/docs", ⟨true, 0o755⟩)] }
    let sh : Shell (Sink × Catalog) := ⟨⟨{ vars := [("HOME", "./~/")], dir := "/srv" }, ({}, w)⟩, 0⟩
    let sh' : Shell (Sink × Catalog) := ⟨⟨{ vars := [("HOME", "")], dir := "/srv" }, ({}, w)⟩, 0⟩
    sh.Works ∧ sh'.Works ∧
      sh.Leaves (run Table.standard "cd" ["~//docs/."] sh) 0
        { sh.scene.session with dir := "/srv/~/docs" } "" ∧
      sh.Leaves (run Table.standard "cd" ["~docs"] sh) 1 sh.scene.session
        "cd: ~docs: No such file or directory\n" ∧
      sh'.Leaves (run Table.standard "cd" ["~//docs/."] sh') 1 sh'.scene.session
        "cd: HOME not set\n" := by
  intro w sh sh'
  have hsh : sh.Works := rfl
  have hsh' : sh'.Works := rfl
  have hat : Session.AtHome "~//docs/." "//docs/." := by
    constructor
    · rfl
    · exact .inr (by decide)
  have hhome : sh.scene.session.Stands "~//docs/." ("./~/" ++ "/" ++ "//docs/.") :=
    .home hat rfl (by decide)
  -- A `~` with a name behind it is no home directory.
  have hother : sh.scene.session.Stands "~docs" "~docs" := by
    refine .itself fun rest h => ?_
    obtain rfl : rest = "docs" := by
      rw [← String.toList_inj]
      simpa using h.toList.symm
    exact absurd h.2 (by decide)
  have hnone : ∀ dir, ¬(Path.resolve? "/srv" (Octets.ofText "~docs") = some dir ∧
      Machine.isDirectory w dir) := by
    have hdir : Path.resolve? "/srv" (Octets.ofText "~docs") = some "/srv/~docs" := by
      decide +kernel
    rintro dir ⟨h, hisdir⟩
    obtain rfl := Option.some.inj (hdir.symm.trans h)
    exact absurd hisdir (by decide)
  obtain ⟨-, hstands, -, -⟩ := cd_goes hsh "~//docs/."
  obtain ⟨-, hstands', -, -⟩ := cd_goes hsh "~docs"
  obtain ⟨-, -, hhomeless, -⟩ := cd_goes hsh' "~//docs/."
  refine ⟨hsh, hsh', ?_, ?_, ?_⟩
  · exact ((hstands _ hhome).1 "/srv/~/docs").mpr ⟨by decide +kernel, by decide +kernel⟩
  · exact (hstands' _ hother).2 hnone
  · exact hhomeless ⟨⟨_, hat⟩, .inr rfl⟩

end Shell

end LineShell
