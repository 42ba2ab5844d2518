import LineShell.Proofs.Command.Effect
import LineShell.Shell.Interpreter

/-! # The standard table

Which factory of the standard table a name goes to, and what running a command of the table does
on a console in working order.

A command of the table may fail to end with a status although the console works: a child may be lost
(`Table.LosesChild`), and then the command ends with the fault of `Machine.spawn`.

* `Table.handler?_standard`        a builtin's name goes to its factory, a file's to that of external
                                   commands
* `Table.standard_run`             running a name, told by what it means
* `Table.standardEffect_answer`    a name ends with a status unless its child is lost
* `Table.standard_yields`          what running a name does
* `Table.standard_blind`           commands of the table see nothing of the console -/

namespace LineShell

/-! ### Who handles a name -/

/-- The first factory of a table that makes a command, and the command. -/
def Table.handler? {σ : Type} (table : Table σ) (s : Session) (o : σ) (name : String)
    (words : List String) : Option (Factory σ × Command σ) :=
  table.findSome? fun f => (f.create? s o name words).map (f, ·)

/-- `Table.create?` forgets the factory of `handler?`. -/
theorem Table.create?_eq_handler? {σ : Type} (table : Table σ) (s : Session) (o : σ)
    (name : String) (words : List String) :
    table.create? s o name words = (table.handler? s o name words).map Prod.snd := by
  rw [handler?, List.map_findSome?, create?]
  congr 1
  funext f
  simp [Option.map_map, Function.comp_def]

/-- The builtin with a name. -/
def Builtin.named? (name : String) : Option Builtin := all.find? (·.name = name)

/-- A builtin is found by its own name. -/
theorem Builtin.named?_name (b : Builtin) : named? b.name = some b := by
  cases b <;> decide

/-- The names that the session has for builtins are those of `Table.standard`. -/
def Session.KnowsBuiltins (s : Session) : Prop := s.builtins = Builtin.all.map Builtin.name

/-- A session that `KnowsBuiltins` knows them by name. -/
theorem Session.KnowsBuiltins.isBuiltin_eq {s : Session} (h : s.KnowsBuiltins) (name : String) :
    s.isBuiltin name = (Builtin.named? name).isSome := by
  rw [Bool.eq_iff_iff, isBuiltin, h, Builtin.named?, List.find?_isSome]
  simp

/-- The command that runs the file at `path` for a name. -/
def External.command {σ : Type} [Console σ] [Machine σ] (s : Session) (name : String)
    (path : Octets) (words : List String) : Command σ where
  findings := [.resolved name path]
  execute := execute name (request s path words)

namespace Table

variable {σ : Type} [Console σ] [Machine σ]

/-- Among factories of builtins, the one with the name handles it. -/
theorem handler?_map_factory [Arguments.Reader] (bs : List Builtin) (s : Session) (o : σ)
    (name : String) (words : List String) :
    handler? (bs.map Builtin.factory) s o name words =
      (bs.find? (·.name = name)).map fun b =>
        (b.factory, { execute := (b.answer s o words).deliver }) := by
  rw [handler?, List.findSome?_map]
  induction bs with
  | nil => rfl
  | cons b bs ih =>
    -- A factory of another name makes no command, and the next one is asked.
    by_cases h : b.name = name
    · simp [Builtin.factory, h]
    · rw [List.find?_cons_of_neg (by simpa using h), ← ih]
      refine List.findSome?_cons_of_isNone ?_
      simp [Builtin.factory, Ne.symm h]

/-- A builtin's name goes to its factory, a file's to `External.factory`. -/
theorem handler?_standard [Arguments.Reader] (s : Session) (o : σ) (name : String)
    (words : List String) :
    standard.handler? s o name words =
      match Builtin.named? name with
      | some b => some (b.factory, { execute := (b.answer s o words).deliver })
      | none => (Lookup.command? o s.searchPath s.dir (Octets.ofText name)).map fun path =>
          (External.factory, External.command s name path words) := by
  have hbuiltins := handler?_map_factory Builtin.all s o name words
  rw [handler?] at hbuiltins
  rw [handler?, standard, List.findSome?_append, hbuiltins, ← Builtin.named?]
  cases Builtin.named? name with
  | some b => rfl
  | none =>
    -- the factory of external commands comes last, and is asked now
    simp only [Option.map_none, Option.none_or, List.findSome?_cons, List.findSome?_nil]
    cases hfile : Lookup.command? o s.searchPath s.dir (Octets.ofText name) with
    | some path => simp [External.factory, External.command, hfile]
    | none => simp [External.factory, hfile]

/-- Running a name of `Table.standard`, told by what the name means. -/
theorem standard_run [Arguments.Reader] (name : String) (words : List String) :
    (standard.run name words : Act σ Status) = (do
      let scene ← get
      match Builtin.named? name with
      | some b =>
        Act.note (.dispatch name words)
        (b.answer scene.session scene.stage words).deliver
      | none =>
        match Lookup.command? scene.stage scene.session.searchPath scene.session.dir
            (Octets.ofText name) with
        | some path =>
          Act.noteAll [.resolved name path]
          Act.note (.dispatch name words)
          External.execute name (External.request scene.session path words)
        | none =>
          Act.say [name, ": not found\n"]
          return Status.notFound) := by
  unfold run
  refine congrArg (get >>= ·) (funext fun scene => ?_)
  rw [create?_eq_handler?, handler?_standard]
  cases Builtin.named? name with
  | some b => rfl
  | none =>
    cases Lookup.command? scene.stage scene.session.searchPath scene.session.dir
      (Octets.ofText name) <;> rfl

end Table

/-! ### What commands do -/

/-- What `Answer.deliver` does, in the session `s` on the machine `w`. -/
def Answer.effect {η : Type} (s : Session) (w : η) : Answer → Effect η Status
  | untaken b stop => ⟨.ok stop.status, s, w, String.join (stop.texts b.grammar.usage)⟩
  | refused r => ⟨.ok 1, s, w, String.join r.texts ++ "\n"⟩
  | done session texts status _ => ⟨.ok status, session, w, String.join texts⟩

/-- A builtin always ends with a status. -/
theorem Answer.effect_answer {η : Type} (s : Session) (w : η) (a : Answer) :
    ∃ status, (a.effect s w).answer = .ok status := by
  cases a <;> exact ⟨_, rfl⟩

/-- What running a file does: the child may change the machine, and never the session.  If it is
    lost there is no status. -/
def External.effect {η : Type} [Machine η] (s : Session) (w : η) (name : String) (path : Octets)
    (words : List String) : Effect η Status :=
  match Machine.spawn (request s path words) w with
  | (.error f, w) => ⟨.error f, s, w, ""⟩
  | (.ok (.ok ending), w) => ⟨.ok ending.status, s, w, ""⟩
  | (.ok (.error _), w) => ⟨.ok Status.notFound, s, w, name ++ ": command not found\n"⟩

/-- What running a name in `Table.standard` does. -/
def Table.standardEffect {η : Type} [Machine η] [Arguments.Reader] (s : Session) (w : η)
    (name : String) (words : List String) : Effect η Status :=
  match Builtin.named? name with
  | some b => (b.answer s w words).effect s w
  | none => match Lookup.command? w s.searchPath s.dir (Octets.ofText name) with
    | some path => External.effect s w name path words
    | none => ⟨.ok Status.notFound, s, w, name ++ ": not found\n"⟩

/-- Running `name` starts a child that is lost: the machine cannot tell how it ended, for the reason
    `f`. -/
def Table.LosesChild {η : Type} [Machine η] (s : Session) (w : η) (name : String)
    (words : List String) (f : Fault) : Prop :=
  Builtin.named? name = none ∧
    ∃ path, Lookup.command? w s.searchPath s.dir (Octets.ofText name) = some path ∧
      (Machine.spawn (External.request s path words) w).1 = .error f

/-- Running the name of a builtin does what `Builtin.answer` decides. -/
theorem Table.standardEffect_builtin {η : Type} [Machine η] [Arguments.Reader] (s : Session)
    (w : η) (b : Builtin) (words : List String) :
    standardEffect s w b.name words = (b.answer s w words).effect s w := by
  rw [standardEffect, Builtin.named?_name]

/-- Running commands of a table sees nothing of a console in working order: what it does follows
    from the session, the machine, the name and the words. -/
def Table.Blind {ω η : Type} [Console ω] [Console.Collects ω] (table : Table (ω × η)) : Prop :=
  ∃ effect : Session → η → String → List String → Effect η Status,
    ∀ (s : Session) (w : η) (name : String) (words : List String),
      (table.run name words).Yields s w (effect s w name words)

/-- Running a file ends with a status, or with the fault for which the child is lost. -/
theorem External.effect_answer {η : Type} [Machine η] (s : Session) (w : η) (name : String)
    (path : Octets) (words : List String) :
    (∃ status, (effect s w name path words).answer = .ok status) ∨
      ∃ f, (Machine.spawn (request s path words) w).1 = .error f ∧
        (effect s w name path words).text = "" ∧
        (effect s w name path words).answer = .error f := by
  unfold effect
  rcases Machine.spawn (request s path words) w with ⟨f | error | ending, w'⟩
  · exact .inr ⟨f, rfl, rfl, rfl⟩
  · exact .inl ⟨_, rfl⟩
  · exact .inl ⟨_, rfl⟩

/-- Running any name in `Table.standard` ends with a status, unless its child is lost; then nothing
    is written. -/
theorem Table.standardEffect_answer {η : Type} [Machine η] [Arguments.Reader] (s : Session) (w : η)
    (name : String) (words : List String) :
    (∃ status, (standardEffect s w name words).answer = .ok status) ∨
      ∃ f, LosesChild s w name words f ∧ (standardEffect s w name words).text = "" ∧
        (standardEffect s w name words).answer = .error f := by
  unfold standardEffect LosesChild
  cases hname : Builtin.named? name with
  | some b => exact .inl ((b.answer s w words).effect_answer s w)
  | none =>
    cases hfile : Lookup.command? w s.searchPath s.dir (Octets.ofText name) with
    | none => exact .inl ⟨_, rfl⟩
    | some path =>
      -- only here a child is started
      obtain hstatus | ⟨f, hlost, heffect⟩ := External.effect_answer s w name path words
      · exact .inl hstatus
      · exact .inr ⟨f, ⟨rfl, path, rfl, hlost⟩, heffect⟩

/-! ### What is seen of the machine -/

section Seen

variable {η η' : Type} [Machine η] [Machine η'] {w : η} {w' : η'}
  (h : Machine.status? w = Machine.status? w')
include h

/-- Lookup sees nothing of a machine but what paths lead to, `Machine.status?`. -/
theorem Lookup.command?_congr (searchPath cwd name : Octets) :
    command? w searchPath cwd name = command? w' searchPath cwd name := by
  have hexec : Machine.isExecutable w = Machine.isExecutable w' := by
    funext path
    rw [Machine.isExecutable, Machine.isExecutable, h]
  rw [command?_eq, command?_eq, hexec]

/-- Where `cd` goes is told by `Machine.status?` alone. -/
theorem Session.destination_congr (s : Session) (target : String) :
    s.destination w target = s.destination w' target := by
  have hdir (path : Octets) : Machine.isDirectory w path = Machine.isDirectory w' path := by
    rw [Machine.isDirectory, Machine.isDirectory, h]
  unfold destination
  simp only [hdir]

/-- What a name means is told by `Machine.status?` alone. -/
theorem Session.meaning_congr (s : Session) (name : String) :
    s.meaning w name = s.meaning w' name := by
  rw [meaning, meaning, Lookup.command?_congr h]

/-- Neither does any builtin see more: what it decides is told by `Machine.status?` alone. -/
theorem Builtin.answer_congr [Arguments.Reader] (b : Builtin) (s : Session) (words : List String) :
    b.answer s w words = b.answer s w' words := by
  have hverdict (operands : List String) : b.verdict s w operands = b.verdict s w' operands := by
    cases b <;> simp only [verdict, Session.destination_congr h, Session.meaning_congr h]
  simp only [answer, hverdict]

end Seen

theorem Machine.status?_pair {ω η : Type} [Machine η] (o : ω) (w : η) :
    status? (o, w) = status? w := rfl

/-- What a builtin decides does not depend on what stands beside the machine. -/
theorem Builtin.answer_pair {ω η : Type} [Machine η] [Arguments.Reader] (b : Builtin) (s : Session)
    (o : ω) (w : η) (words : List String) : b.answer s (o, w) words = b.answer s w words :=
  b.answer_congr (Machine.status?_pair o w) s words

/-- What lookup finds does not depend on what stands beside the machine. -/
theorem Lookup.command?_pair {ω η : Type} [Machine η] (o : ω) (w : η)
    (searchPath cwd name : Octets) :
    command? (o, w) searchPath cwd name = command? w searchPath cwd name :=
  command?_congr (Machine.status?_pair o w) searchPath cwd name

section Yields

variable {ω η : Type} [Console ω] [Console.Collects ω]

/-- Delivering an answer does what `Answer.effect` says. -/
theorem Answer.deliver_yields (a : Answer) (s : Session) (w : η) :
    (a.deliver : Act (ω × η) Status).Yields s w (a.effect s w) := by
  cases a with
  | untaken b stop => exact Act.Yields.say_pure rfl _
  | refused r => exact Act.Yields.say_pure (by simp) _
  | done session texts status findings =>
    -- The notes and the new session are silent, and the text cannot fail here.
    refine (Act.Yields.noteAll findings).bind_silent ?_
    refine (Act.Yields.setSession session).bind_silent ?_
    exact (Act.Yields.say_pure rfl status).tryCatch

variable [Machine η]

/-- What running a file does, whatever has become of the child. -/
theorem External.execute_yields (s : Session) (w : η) (name : String) (path : Octets)
    (words : List String) :
    (execute name (request s path words) : Act (ω × η) Status).Yields s w
      (effect s w name path words) := by
  have hspawn : (Act.spawn (request s path words) : Act (ω × η) Outcome).Yields s w _ :=
    Act.Yields.spawn _
  unfold effect execute
  refine Act.Yields.flush.bind_silent ?_
  rcases hout : Machine.spawn (request s path words) w with ⟨f | error | ending, w'⟩
  · -- the child is lost: nothing comes behind it
    rw [hout] at hspawn
    exact hspawn.bind_error
  · -- the child has not been started, which is reported
    rw [hout] at hspawn
    refine hspawn.bind_silent ((Act.Yields.note _).bind_silent ?_)
    exact Act.Yields.say_pure (by simp) _
  · -- the child has ended
    rw [hout] at hspawn
    refine hspawn.bind_silent ((Act.Yields.note _).bind_silent ?_)
    exact Act.Yields.pure _

namespace Table

/-- Running any name in `Table.standard` does what `standardEffect` says. -/
theorem standard_yields [Arguments.Reader] (s : Session) (w : η) (name : String)
    (words : List String) :
    ((standard : Table (ω × η)).run name words).Yields s w (standardEffect s w name words) := by
  rw [standard_run]
  refine Act.Yields.get_bind fun o => ?_
  rw [standardEffect]
  cases Builtin.named? name with
  | some b =>
    refine (Act.Yields.note _).bind_silent ?_
    rw [Builtin.answer_pair]
    exact Answer.deliver_yields _ s w
  | none =>
    rw [Lookup.command?_pair]
    cases Lookup.command? w s.searchPath s.dir (Octets.ofText name) with
    | some path =>
      refine (Act.Yields.noteAll _).bind_silent ((Act.Yields.note _).bind_silent ?_)
      exact External.execute_yields s w name path words
    | none => exact Act.Yields.say_pure (by simp) _

/-- Commands of `Table.standard` see nothing of the console. -/
theorem standard_blind [Arguments.Reader] : (standard : Table (ω × η)).Blind :=
  ⟨standardEffect, standard_yields⟩

end Table

end Yields

end LineShell
