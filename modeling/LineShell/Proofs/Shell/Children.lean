import LineShell.Proofs.Console.Refusing
import LineShell.Proofs.Shell.Sequence
import LineShell.Proofs.Shell.Spawning

/-! # The children of a turn

On a console that can be flushed the children that a turn starts follow from the session, the
machine and the line, and so does what becomes of them.

* `External.execute_begins`, `Table.run_begins`   a command with a child begins with a flush and it
* `Turn.filter_isSpawn_of_steady`                 the children among the events of a turn -/

namespace LineShell

section Begin

variable {σ : Type} [Console σ] [Machine σ]

/-- If what was written before can be passed on, the child comes next: the events of
    `External.execute` begin with a flush and `Machine.spawn`. -/
theorem External.execute_begins (name : String) (r : Request) {scene : Scene σ} {stage : σ}
    (hmade : Console.flush scene.stage = (.ok (), stage)) :
    ∃ talk, (execute name r : Act (Watched σ) Status).Mirrors (execute name r) scene
      (.flush (.ok ()) :: .spawn r (Machine.spawn r stage).1 :: talk) := by
  have hflush := Act.Mirrors.flush scene
  have hrun : (Act.flush : Act σ Unit).run scene = (.ok (), { scene with stage }) := by
    rw [Act.run_flush, hmade]
  rw [hmade] at hflush
  have hspawn := Act.Mirrors.spawn r { scene with stage }
  rw [execute_eq, execute_eq]
  rcases houtcome : Machine.spawn r stage with ⟨f | outcome, stage'⟩
  · -- the child is lost, and nothing comes behind it
    have hrun' : (Act.spawn r : Act σ Outcome).run { scene with stage } =
        (.error f, { scene with stage := stage' }) := by
      rw [Act.run_spawn, houtcome]
    rw [houtcome] at hspawn
    exact ⟨[], hflush.bind hrun (hspawn.bind_error hrun')⟩
  · have hrun' : (Act.spawn r : Act σ Outcome).run { scene with stage } =
        (.ok outcome, { scene with stage := stage' }) := by
      rw [Act.run_spawn, houtcome]
    rw [houtcome] at hspawn
    obtain ⟨talk, hconclude, -, -⟩ :=
      conclude_watched name r outcome { scene with stage := stage' }
    exact ⟨talk, hflush.bind hrun (hspawn.bind hrun' hconclude)⟩

/-- The events of a name that is no builtin and means a file begin with a flush and its child. -/
theorem Table.run_begins {name : String} {path : Octets} (words : List String) {scene : Scene σ}
    {stage : σ} (hname : Builtin.named? name = none)
    (hfile : Lookup.command? scene.stage scene.session.searchPath scene.session.dir
      (Octets.ofText name) = some path)
    (hmade : Console.flush (Console.log (.dispatch name words)
      (Console.log (.resolved name path) scene.stage)) = (.ok (), stage)) :
    let r := External.request scene.session path words
    ∃ talk, (standard.run name words : Act (Watched σ) Status).Mirrors (standard.run name words)
      scene (.flush (.ok ()) :: .spawn r (Machine.spawn r stage).1 :: talk) := by
  intro r
  let found : Scene σ := ⟨scene.session, Console.log (.resolved name path) scene.stage⟩
  let sent : Scene σ := ⟨scene.session, Console.log (.dispatch name words) found.stage⟩
  have hflush : Console.flush sent.stage = (.ok (), stage) := hmade
  obtain ⟨talk, hexecute⟩ := External.execute_begins name r hflush
  refine ⟨talk, ?_⟩
  -- Lookup notes the file that it has found, and the dispatch is noted behind that.
  simp only [standard_run, hname]
  refine .get_bind fun events => ?_
  simp only [Scene.watch, Watched.command?_eq, hfile]
  exact (Act.Mirrors.noteAll [.resolved name path] scene).bind rfl
    ((Act.Mirrors.note _ found).bind rfl hexecute)

end Begin

/-- The children that a line starts in the session `s` on the machine `w`, and what becomes of
    them. -/
def Session.children {η : Type} [Machine η] (s : Session) (w : η) (line : String) : List Event :=
  match Words.words? line with
  | .ok (name :: operands) =>
    match s.child? w name operands with
    | some (_, r) => [.spawn r (Machine.spawn r w).1]
    | none => []
  | _ => []

namespace Shell

variable {ω η : Type} [Console ω] [Machine η]

/-- The child that a turn asks for does not depend on the console. -/
theorem Turn.child?_eq (t : Turn (ω × η)) :
    t.child? =
      match Words.words? t.line with
      | .ok (name :: operands) => t.sh.scene.session.child? t.sh.scene.stage.2 name operands
      | _ => none := by
  unfold child?
  rcases hline : Words.words? t.line with e | words
  · rfl
  · cases words with
    | nil => rfl
    | cons name operands =>
      simp only [place, Call.stage, hline]
      exact t.sh.scene.session.child?_congr (Machine.status?_pair _ _) name operands

omit [Machine η] in
/-- Concluding a turn does not take back what has happened. -/
private theorem events_conclude_watch (result : Except Fault Status) (sh : Shell (ω × η))
    (events : List Event) :
    ∃ more, (conclude (result, sh.watch events)).2.scene.stage.events = events ++ more := by
  cases result with
  | error f => exact ⟨[], (List.append_nil _).symm⟩
  | ok status =>
    have hflush : Console.flush (sh.watch events).scene.stage =
        ((Console.flush sh.scene.stage).1, ⟨(Console.flush sh.scene.stage).2,
          events ++ [.flush (Console.flush sh.scene.stage).1]⟩) := rfl
    rw [conclude, hflush]
    rcases Console.flush sh.scene.stage with ⟨f | ⟨⟩, stage⟩ <;> exact ⟨_, rfl⟩

/-- A turn that asks for a child begins with a flush and the child, on a console that is
    `Steady`. -/
theorem Turn.events_begin {P : ω → Prop} (hP : Console.Steady P) {t : Turn (ω × η)}
    (hknows : t.sh.scene.session.KnowsBuiltins) (hsh : P t.sh.scene.stage.1) {name : String}
    {operands : List String} {r : Request}
    (hline : Words.words? t.line = .ok (name :: operands))
    (hchild : t.sh.scene.session.child? t.sh.scene.stage.2 name operands = some (name, r)) :
    ∃ rest, t.events =
      .flush (.ok ()) :: .spawn r (Machine.spawn r t.sh.scene.stage.2).1 :: rest := by
  obtain ⟨line, sh⟩ := t
  obtain ⟨hbuiltin, -, path, hfile, rfl⟩ := Session.child?_eq_some.mp hchild
  have hname : Builtin.named? name = none := by
    rw [hknows.isBuiltin_eq] at hbuiltin
    simpa using hbuiltin
  -- the records that are noted before the flush leave the console as it is
  let noted := sh.note (.words line (name :: operands))
  have hlogged : P (Console.log (.dispatch name operands)
      (Console.log (.resolved name path) noted.scene.stage.1)) :=
    hP.log _ (hP.log _ (hP.log _ hsh))
  obtain ⟨o, hmade, -⟩ := hP.flush hlogged
  have hmade' : Console.flush (Console.log (.dispatch name operands)
      (Console.log (.resolved name path) noted.scene.stage)) =
        (.ok (), (o, sh.scene.stage.2)) :=
    congrArg (fun made => (made.1, (made.2, sh.scene.stage.2))) hmade
  have hfile' : Lookup.command? noted.scene.stage noted.scene.session.searchPath
      noted.scene.session.dir (Octets.ofText name) = some path :=
    (Lookup.command?_pair _ _ _ _ _).trans hfile
  obtain ⟨talk, hrun⟩ := Table.run_begins operands hname hfile' hmade'
  have hwatched := hrun []
  have hobey : obey Table.standard line (sh.watch []) =
      ((run Table.standard name operands noted).1,
        (run Table.standard name operands noted).2.watch
          (.flush (.ok ()) :: .spawn (External.request sh.scene.session path operands)
            (Machine.spawn (External.request sh.scene.session path operands)
              sh.scene.stage.2).1 :: talk)) := by
    simp only [obey, hline, run]
    rw [show ((sh.watch []).note (.words line (name :: operands))).scene =
      noted.scene.watch [] from rfl, hwatched]
    rfl
  -- A flush at the end of the turn comes behind all this.
  obtain ⟨more, hmore⟩ := events_conclude_watch (run Table.standard name operands noted).1
    (run Table.standard name operands noted).2 _
  refine ⟨talk ++ more, ?_⟩
  rw [Turn.events, execute_eq, hobey]
  exact hmore

/-- The children among the events of a turn are the `Session.children` of its line, on a console
    that is `Steady`. -/
theorem Turn.filter_isSpawn_of_steady {P : ω → Prop} (hP : Console.Steady P) (t : Turn (ω × η))
    (hknows : t.sh.scene.session.KnowsBuiltins) (hsh : P t.sh.scene.stage.1) :
    t.events.filter Event.isSpawn =
      t.sh.scene.session.children t.sh.scene.stage.2 t.line := by
  obtain ⟨hcourse, -⟩ := t.watched hknows
  have hchild := t.child?_eq
  -- What asks for no child starts none.
  have hnone : t.child? = none → t.events.filter Event.isSpawn = [] := by
    intro h
    obtain hall | ⟨_, _, _, _, hsome, -⟩ := hcourse.cases_isSpawn
    · exact List.filter_eq_nil_iff.mpr fun e he => by simp [hall e he]
    · exact nomatch h.symm.trans hsome
  unfold Session.children
  rcases hline : Words.words? t.line with e | words
  · rw [hline] at hchild
    exact hnone hchild
  · rw [hline] at hchild
    cases words with
    | nil => exact hnone hchild
    | cons name operands =>
      dsimp only at hchild ⊢
      rcases hr : t.sh.scene.session.child? t.sh.scene.stage.2 name operands with _ | ⟨name', r⟩
      · exact hnone (hchild.trans hr)
      · -- the child comes right behind a flush, and what follows holds no other child
        obtain rfl : name' = name := (Session.child?_eq_some.mp hr).2.1
        obtain ⟨rest, hbegin⟩ := events_begin hP hknows hsh hline hr
        have hrest : ∀ e ∈ rest, e.isSpawn = false := by
          obtain hall | ⟨_, _, _, rest', -, hevents, hrest, -⟩ := hcourse.cases_isSpawn
          · exact fun e he => hall e (by simp [hbegin, he])
          · rw [hbegin] at hevents
            obtain ⟨-, htail⟩ := List.cons.inj hevents
            obtain ⟨-, rfl⟩ := List.cons.inj htail
            exact hrest
        have hfilter : rest.filter Event.isSpawn = [] :=
          List.filter_eq_nil_iff.mpr fun e he => by simp [hrest e he]
        rw [hbegin, List.filter_cons_of_neg (by simp [Event.isSpawn]),
          List.filter_cons_of_pos rfl, hfilter]

/-- The children among the events of a turn are the `Session.children` of its line, on a console
    that `Works`, since it can be flushed. -/
theorem Turn.filter_isSpawn [Console.Collects ω] (t : Turn (ω × η))
    (hknows : t.sh.scene.session.KnowsBuiltins) (hsh : t.sh.Works) :
    t.events.filter Event.isSpawn =
      t.sh.scene.session.children t.sh.scene.stage.2 t.line :=
  t.filter_isSpawn_of_steady Console.steady_works hknows hsh

end Shell

end LineShell
