import LineShell.Proofs.Command.Standard
import LineShell.Proofs.Path.Normal

/-! # The session under commands

What the commands of the standard table do to the session, on any console: a builtin leaves the
session that its answer holds, even if nothing of its text can be written, and everything else
leaves the session alone.

* `Answer.deliver_session`           an answer that is delivered leaves its session
* `Table.standard_session`           what running a name leaves of the session
* `Table.change_standardSession`     only `cd` and `exit` change it, in one way each -/

namespace LineShell

/-- An act that leaves the session alone, whatever the console does. -/
def Act.Still {σ α : Type} (a : Act σ α) : Prop :=
  ∀ scene : Scene σ, (a.run scene).2.session = scene.session

namespace Act.Still

variable {σ α β : Type} [Console σ]

omit [Console σ] in
theorem pure (x : α) : (Pure.pure x : Act σ α).Still := fun _ => rfl

theorem say (ts : List String) : (Act.say ts : Act σ Unit).Still := fun _ => rfl

theorem flush : (Act.flush : Act σ Unit).Still := fun _ => rfl

theorem note (r : Record) : (Act.note r : Act σ Unit).Still := fun _ => rfl

omit [Console σ] in
theorem spawn [Machine σ] (r : Request) : (Act.spawn r : Act σ Outcome).Still := fun _ => rfl

omit [Console σ] in
theorem bind {a : Act σ α} {f : α → Act σ β} (ha : a.Still) (hf : ∀ x, (f x).Still) :
    (a >>= f).Still := by
  intro scene
  have hfirst := ha scene
  rw [Act.run_bind]
  rcases hrun : a.run scene with ⟨e | x, scene'⟩
  · rwa [hrun] at hfirst
  · rw [hrun] at hfirst
    exact (hf x scene').trans hfirst

omit [Console σ] in
theorem tryCatch {a : Act σ α} {f : Fault → Act σ α} (ha : a.Still) (hf : ∀ e, (f e).Still) :
    (MonadExcept.tryCatch a f).Still := by
  intro scene
  have hfirst := ha scene
  have hcatch := Act.run_tryCatch a f scene
  rcases hrun : a.run scene with ⟨e | x, scene'⟩
  · rw [hrun] at hcatch hfirst
    exact (congrArg (·.2.session) hcatch).trans ((hf e scene').trans hfirst)
  · rw [hrun] at hcatch hfirst
    exact (congrArg (·.2.session) hcatch).trans hfirst

end Act.Still

/-- The session that an answer leaves, if it is delivered in the session `s`. -/
def Answer.session (s : Session) : Answer → Session
  | done session _ _ _ => session
  | untaken _ _ | refused _ => s

/-- An answer that is delivered leaves its session, even if its text cannot be written. -/
theorem Answer.deliver_session {σ : Type} [Console σ] (a : Answer) (scene : Scene σ) :
    ((a.deliver : Act σ Status).run scene).2.session = a.session scene.session := by
  cases a with
  | untaken b stop => exact (Act.Still.say _).bind (fun _ => Act.Still.pure _) scene
  | refused r => exact (Act.Still.say _).bind (fun _ => Act.Still.pure _) scene
  | done session texts status findings =>
    -- Behind the new session there is only text, and the reason why it cannot be written.
    have hrest : (tryCatch (do
        Act.say texts
        return status) fun f => do
          Act.say [f.message, "\n"]
          return 1 : Act σ Status).Still :=
      ((Act.Still.say _).bind fun _ => Act.Still.pure _).tryCatch
        fun _ => (Act.Still.say _).bind fun _ => Act.Still.pure _
    exact hrest _

/-- Running a file leaves the session alone, whatever becomes of the child. -/
theorem External.execute_still {σ : Type} [Console σ] [Machine σ] (name : String) (r : Request) :
    (execute name r : Act σ Status).Still := by
  refine Act.Still.flush.bind fun _ => (Act.Still.spawn r).bind fun outcome => ?_
  cases outcome with
  | ok ending => exact (Act.Still.note _).bind fun _ => Act.Still.pure _
  | error e =>
    exact (Act.Still.note _).bind fun _ => (Act.Still.say _).bind fun _ => Act.Still.pure _

namespace Table

/-- The session that running a name in `Table.standard` leaves: a builtin decides, and nothing else
    touches it. -/
def standardSession {η : Type} [Machine η] (s : Session) (w : η) (name : String)
    (words : List String) : Session :=
  match Builtin.named? name with
  | some b => (b.answer s w words).session s
  | none => s

/-- Running a name leaves the session that `standardSession` gives, whatever the console does. -/
theorem standard_session {σ : Type} [Console σ] [Machine σ] (name : String) (words : List String)
    (scene : Scene σ) :
    ((standard.run name words : Act σ Status).run scene).2.session =
      standardSession scene.session scene.stage name words := by
  rw [standard_run, standardSession, Act.run_bind, Act.run_get]
  dsimp only
  cases Builtin.named? name with
  | some b => exact Answer.deliver_session _ _
  | none =>
    cases Lookup.command? scene.stage scene.session.searchPath scene.session.dir
        (Octets.ofText name) with
    | some path => exact External.execute_still _ _ _
    | none => exact (Act.Still.say _).bind (fun _ => Act.Still.pure _) scene

end Table

/-! ### Which commands change the session -/

/-- What a session keeps of another one whatever is run: `vars`, the environment, and `builtins`,
    the names of the builtins. -/
structure Session.Kept (s s' : Session) : Prop where
  vars : s'.vars = s.vars
  builtins : s'.builtins = s.builtins

namespace Session.Kept

variable {s s' s'' : Session}

theorem refl (s : Session) : s.Kept s := ⟨rfl, rfl⟩

theorem trans (h : s.Kept s') (h' : s'.Kept s'') : s.Kept s'' :=
  ⟨h'.vars.trans h.vars, h'.builtins.trans h.builtins⟩

theorem knowsBuiltins (h : s.Kept s') (hs : s.KnowsBuiltins) : s'.KnowsBuiltins :=
  h.builtins.trans hs

end Session.Kept

/-- With these words `cd` goes to the directory `dir`: it has one operand, whose path resolves to
    `dir` from the directory of the session. -/
def Session.Goes {η : Type} [Machine η] (s : Session) (w : η) (words : List String)
    (dir : Octets) : Prop :=
  ∃ operand path, words = [operand] ∧ s.expandHome operand = .ok path ∧
    Path.resolve? s.dir (Octets.ofText path) = some dir ∧ Machine.isDirectory w dir = true

/-- With these words `exit` asks for a status: it has no operand, or one that writes the status. -/
def Status.Asked (words : List String) (status : Status) : Prop :=
  words = [] ∧ status = 0 ∨ ∃ word, words = [word] ∧ ofWord? word = some status

/-- What becomes of a session when a command is run. -/
inductive Session.Change {η : Type} [Machine η] (s : Session) (w : η) (name : String)
    (words : List String) : Session → Prop
  /-- The command goes to a directory. -/
  | moved {dir : Octets} (hname : name = "cd") (goes : s.Goes w words dir) :
      Change s w name words { s with dir }
  /-- The command asks for the exit. -/
  | exiting {status : Status} (hname : name = "exit") (asked : status.Asked words) :
      Change s w name words { s with pendingExit := some status }
  /-- The command does neither. -/
  | same (stays : name = "cd" → ∀ dir, ¬s.Goes w words dir)
      (goesOn : name = "exit" → ∀ status : Status, ¬status.Asked words) : Change s w name words s

namespace Builtin

variable {η : Type} [Machine η] {s : Session} {w : η} {words : List String}

/-- The builtin that is found by a name has the name. -/
theorem named?_eq_some {name : String} {b : Builtin} (h : named? name = some b) :
    b.name = name := by
  simpa using List.find?_some h

/-- The destination of an operand is the directory that `cd` goes to with it. -/
theorem destination_eq_ok {operand : String} {dir : Octets} :
    s.destination w operand = .ok dir ↔ s.Goes w [operand] dir := by
  have hgoes : s.Goes w [operand] dir ↔ ∃ path, s.expandHome operand = .ok path ∧
      Path.resolve? s.dir (Octets.ofText path) = some dir ∧ Machine.isDirectory w dir = true := by
    simp [Session.Goes]
  rw [hgoes]
  -- Each step on the way to the directory may fail, and then `cd` goes nowhere.
  cases hpath : s.expandHome operand with
  | error r => simp [Session.destination, hpath, bind, Except.bind]
  | ok path =>
    cases hdir : Path.resolve? s.dir (Octets.ofText path) with
    | none => simp [Session.destination, hpath, hdir, bind, Except.bind]
    | some there =>
      simp only [Session.destination, hpath, hdir, bind, Except.bind, Except.ok.injEq,
        exists_eq_left', Option.some.injEq]
      split
      · rename_i h
        constructor
        · rintro ⟨rfl⟩
          exact ⟨rfl, h⟩
        · rintro ⟨rfl, -⟩
          rfl
      · rename_i h
        constructor
        · nofun
        · rintro ⟨rfl, h'⟩
          exact absurd h' h

/-- A `cd` that goes to a directory writes nothing. -/
theorem answer_of_goes [Arguments.Reader] {dir : Octets} (h : s.Goes w words dir) :
    ∃ findings, cd.answer s w words = .done { s with dir } [] 0 findings := by
  obtain ⟨operand, path, rfl, hrest⟩ := h
  have hdir : s.destination w operand = .ok dir :=
    destination_eq_ok.mpr ⟨operand, path, rfl, hrest⟩
  refine ⟨[.moved operand dir], ?_⟩
  refine (answer_eq _ _ _ _).trans ?_
  show cd.verdict s w [operand] = _
  simp only [verdict, List.head?_cons, hdir]

/-- A `cd` whose operand leads to no directory is refused. -/
theorem answer_cd_error [Arguments.Reader] {operand : String} {r : Refusal}
    (h : s.destination w operand = .error r) : cd.answer s w [operand] = .refused r := by
  refine (answer_eq _ _ _ _).trans ?_
  show cd.verdict s w [operand] = _
  simp only [verdict, List.head?_cons, h]

/-- An `exit` that asks for a status writes nothing. -/
theorem answer_of_asked [Arguments.Reader] {status : Status} (h : status.Asked words) :
    exit.answer s w words = .done { s with pendingExit := some status } [] status [] := by
  obtain ⟨rfl, rfl⟩ | ⟨word, rfl, hword⟩ := h
  · refine (answer_eq _ _ _ _).trans ?_
    rfl
  · refine (answer_eq _ _ _ _).trans ?_
    show exit.verdict s w [word] = _
    simp only [verdict, List.head?_cons, hword]

/-- An `exit` whose operand is no status is refused. -/
theorem answer_exit_none [Arguments.Reader] {word : String} (h : Status.ofWord? word = none) :
    exit.answer s w [word] = .refused (.notANumber word) := by
  refine (answer_eq _ _ _ _).trans ?_
  show exit.verdict s w [word] = _
  simp only [verdict, List.head?_cons, h]

/-- What `cd` decides leaves a session in another directory, or as it was. -/
theorem change_cd : s.Change w "cd" words ((cd.answer s w words).session s) := by
  have hexit : "cd" = "exit" → ∀ status : Status, ¬status.Asked words := by simp
  -- Only with one operand there is a place to go to.
  obtain _ | ⟨operand, _ | ⟨_, _⟩⟩ := words
  · exact .same (fun _ dir => by simp [Session.Goes]) hexit
  · cases hdir : s.destination w operand with
    | ok dir =>
      have hgoes := destination_eq_ok.mp hdir
      obtain ⟨findings, hanswer⟩ := answer_of_goes hgoes
      rw [hanswer]
      exact .moved rfl hgoes
    | error r =>
      rw [answer_cd_error hdir]
      refine .same (fun _ dir hgoes => ?_) hexit
      rw [destination_eq_ok.mpr hgoes] at hdir
      cases hdir
  · exact .same (fun _ dir => by simp [Session.Goes]) hexit

/-- What `exit` decides asks for the exit, or leaves the session as it was. -/
theorem change_exit : s.Change w "exit" words ((exit.answer s w words).session s) := by
  have hcd : "exit" = "cd" → ∀ dir, ¬s.Goes w words dir := by simp
  -- Two operands are one too many, and ask for nothing.
  obtain _ | ⟨word, _ | ⟨_, _⟩⟩ := words
  · exact .exiting rfl (.inl ⟨rfl, rfl⟩)
  · cases hword : Status.ofWord? word with
    | some status =>
      have hasked : status.Asked [word] := .inr ⟨word, rfl, hword⟩
      rw [answer_of_asked hasked]
      exact .exiting rfl hasked
    | none =>
      rw [answer_exit_none hword]
      exact .same hcd (fun _ status => by simp [Status.Asked, hword])
  · exact .same hcd (fun _ status => by simp [Status.Asked])

/-- No builtin but `cd` and `exit` touches the session. -/
theorem session_answer {b : Builtin} (hcd : b ≠ cd) (hexit : b ≠ exit) :
    (b.answer s w words).session s = s := by
  rw [answer_eq]
  cases b.surplus? words with
  | some word => rfl
  | none =>
    cases b with
    | cd => exact absurd rfl hcd
    | exit => exact absurd rfl hexit
    | echo => rfl
    | pwd => rfl
    | type =>
      simp only [verdict]
      split <;> rfl

/-- Builtins with one name are one. -/
theorem name_injective {b c : Builtin} (h : b.name = c.name) : b = c := by
  have hsame := named?_name c
  rw [← h, named?_name] at hsame
  exact Option.some.inj hsame

end Builtin

/-- Running a command with `Table.standard` changes the session as `cd` and `exit` do, or not at
    all: what is left is a `Session.Change`. -/
theorem Table.change_standardSession {η : Type} [Machine η] (s : Session) (w : η) (name : String)
    (words : List String) : s.Change w name words (standardSession s w name words) := by
  unfold standardSession
  cases hname : Builtin.named? name with
  | none =>
    -- The name of a builtin would have been found.
    have hne : ∀ b : Builtin, name ≠ b.name := by
      rintro b rfl
      rw [Builtin.named?_name] at hname
      cases hname
    exact .same (fun h => absurd h (hne .cd)) (fun h => absurd h (hne .exit))
  | some b =>
    obtain rfl := Builtin.named?_eq_some hname
    show s.Change w b.name words ((b.answer s w words).session s)
    by_cases hcd : b = .cd
    · exact hcd ▸ Builtin.change_cd
    · by_cases hexit : b = .exit
      · exact hexit ▸ Builtin.change_exit
      · rw [Builtin.session_answer hcd hexit]
        exact .same (fun h => absurd (Builtin.name_injective h) hcd)
          (fun h => absurd (Builtin.name_injective h) hexit)

namespace Session.Change

variable {η : Type} [Machine η] {s s' : Session} {w : η} {name : String} {words : List String}

/-- No command touches the environment or the names of the builtins. -/
theorem kept (h : s.Change w name words s') : s.Kept s' := by
  cases h <;> exact ⟨rfl, rfl⟩

/-- No command takes back an exit that has been asked for. -/
theorem isSome_pendingExit (h : s.Change w name words s') (hs : s.pendingExit.isSome) :
    s'.pendingExit.isSome := by
  cases h with
  | moved _ _ => exact hs
  | exiting _ _ => rfl
  | same _ _ => exact hs

/-- A session in a directory in normal form stays in one. -/
theorem isNormal_dir (h : s.Change w name words s') (hs : Path.IsNormal s.dir) :
    Path.IsNormal s'.dir := by
  cases h with
  | moved _ goes =>
    obtain ⟨_, _, _, _, hresolve, _⟩ := goes
    exact Path.isNormal_of_resolve? hs hresolve
  | exiting _ _ => exact hs
  | same _ _ => exact hs

/-- Only `cd` moves a session, and only to where it goes. -/
theorem goes_of_dir_ne (h : s.Change w name words s') (hdir : s'.dir ≠ s.dir) :
    name = "cd" ∧ s.Goes w words s'.dir := by
  cases h with
  | moved hname goes => exact ⟨hname, goes⟩
  | exiting _ _ => exact absurd rfl hdir
  | same _ _ => exact absurd rfl hdir

/-- Only `exit` changes the pending exit, and only to the status it asks for. -/
theorem asked_of_pendingExit_ne (h : s.Change w name words s')
    (hexit : s'.pendingExit ≠ s.pendingExit) :
    name = "exit" ∧ ∃ status : Status, status.Asked words ∧ s'.pendingExit = some status := by
  cases h with
  | moved _ _ => exact absurd rfl hexit
  | exiting hname asked => exact ⟨hname, _, asked, rfl⟩
  | same _ _ => exact absurd rfl hexit

/-- A command that goes nowhere and asks for no exit leaves the session as it was. -/
theorem eq_self (h : s.Change w name words s') (hcd : name = "cd" → ∀ dir, ¬s.Goes w words dir)
    (hexit : name = "exit" → ∀ status : Status, ¬status.Asked words) : s' = s := by
  cases h with
  | moved hname goes => exact absurd goes (hcd hname _)
  | exiting hname asked => exact absurd asked (hexit hname _)
  | same _ _ => rfl

end Session.Change

end LineShell
