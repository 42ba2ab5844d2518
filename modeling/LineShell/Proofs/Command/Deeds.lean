import LineShell.Proofs.Command.Session
import LineShell.Proofs.Command.Watched

/-! # What commands do on a watched stage

A builtin writes, and nothing else.  A name that means a file asks for a child, and then the first
event is a flush: nothing that was written before may come behind what the child writes.

* `Answer.deliver_watched`      builtins write
* `External.execute_watched`    children start behind a flush, if it goes well
* `Table.run_watched`           which names of the standard table ask for a child -/

namespace LineShell

/-- Events that are writes, one of which has the fault of the `result` if there is one. -/
structure Talk {α : Type} (result : Except Fault α) (talk : List Event) : Prop where
  writes : ∀ e ∈ talk, e.isWrite
  fault : ∀ f, result = .error f → ∃ e ∈ talk, e.HasFault f

/-- The child that a name and its words ask for in the session `s` on the machine `w`, beside the
    name. -/
def Session.child? {η : Type} [Machine η] (s : Session) (w : η) (name : String)
    (words : List String) : Option (String × Request) :=
  if s.isBuiltin name then none
  else (Lookup.command? w s.searchPath s.dir (Octets.ofText name)).map fun path =>
    (name, External.request s path words)

/-- Which child a name asks for is told by `Machine.status?` alone. -/
theorem Session.child?_congr {η η' : Type} [Machine η] [Machine η'] {w : η} {w' : η'}
    (h : Machine.status? w = Machine.status? w') (s : Session) (name : String)
    (words : List String) : s.child? w name words = s.child? w' name words := by
  rw [child?, child?, Lookup.command?_congr h]

/-- How a name ends whose child went so: with the exit code, with 128 more than the signal that
    killed the child, or with 127 and a report if there was no child.  If the child was lost there
    is no status. -/
def Reported (name : String) (outcome : Except Fault Outcome) (status : Status) (text : String) :
    Prop :=
  match outcome with
  | .ok (.ok (.exited code)) => status = code ∧ text = ""
  | .ok (.ok (.killed signal)) => status = 128 + signal ∧ text = ""
  | .ok (.error _) => status = 127 ∧ text = name ++ ": command not found\n"
  | .error _ => False

/-- The events of a command that asks for a child or for none. -/
inductive Deed : Option (String × Request) → Except Fault Status → List Event → Prop
  /-- Without a child there are writes only. -/
  | talked {result : Except Fault Status} {talk : List Event} (h : Talk result talk) :
      Deed none result talk
  /-- What was written before could not be passed on. -/
  | stuck (name : String) (r : Request) (f : Fault) :
      Deed (some (name, r)) (.error f) [.flush (.error f)]
  /-- The child ran to its end, or could not be started, which is reported. -/
  | tried (name : String) (r : Request) (outcome : Outcome) {result : Except Fault Status}
      {talk : List Event} (h : Talk result talk)
      (reported : ∀ status, result = .ok status →
        Reported name (.ok outcome) status (String.join (talk.map Event.text))) :
      Deed (some (name, r)) result (.flush (.ok ()) :: .spawn r (.ok outcome) :: talk)
  /-- The child was started and then lost. -/
  | lost (name : String) (r : Request) (f : Fault) :
      Deed (some (name, r)) (.error f) [.flush (.ok ()), .spawn r (.error f)]

/-- A child is asked for by the name that is no builtin and means its program. -/
theorem Session.child?_eq_some {η : Type} [Machine η] {s : Session} {w : η} {name name' : String}
    {words : List String} {r : Request} :
    s.child? w name words = some (name', r) ↔
      s.isBuiltin name = false ∧ name' = name ∧
        ∃ path, Lookup.command? w s.searchPath s.dir (Octets.ofText name) = some path ∧
          r = External.request s path words := by
  unfold child?
  cases s.isBuiltin name with
  | true => simp
  | false =>
    simp only [Bool.false_eq_true, ↓reduceIte, Option.map_eq_some_iff, Prod.mk.injEq, true_and]
    constructor
    · rintro ⟨path, hfile, rfl, rfl⟩
      exact ⟨rfl, path, hfile, rfl⟩
    · rintro ⟨rfl, path, hfile, rfl⟩
      exact ⟨path, hfile, rfl, rfl⟩

namespace Deed

variable {child : Option (String × Request)} {result : Except Fault Status} {deed : List Event}

/-- Nobody is asked for a line. -/
theorem isRead_eq_false (h : Deed child result deed) : ∀ e ∈ deed, e.isRead = false := by
  cases h with
  | talked htalk => exact fun e he => Event.isRead_of_isWrite (htalk.writes e he)
  | stuck _ _ _ => simp [Event.isRead]
  | @tried _ _ _ _ talk htalk _ =>
    have hread : ∀ e ∈ talk, e.isRead = false :=
      fun e he => Event.isRead_of_isWrite (htalk.writes e he)
    simpa [Event.isRead] using hread
  | lost _ _ _ => simp [Event.isRead]

/-- A child is started right behind a flush that went well, and there is one child at most.  The
    result tells how the child went, as `Reported` says, and is the fault of a lost child. -/
theorem cases_isSpawn (h : Deed child result deed) :
    (∀ e ∈ deed, e.isSpawn = false) ∨ ∃ name r outcome talk, child = some (name, r) ∧
      deed = .flush (.ok ()) :: .spawn r outcome :: talk ∧ (∀ e ∈ talk, e.isSpawn = false) ∧
      (∀ status, result = .ok status →
        Reported name outcome status (String.join (talk.map Event.text))) ∧
      ∀ f, outcome = .error f → result = .error f := by
  cases h with
  | talked htalk => exact .inl fun e he => Event.isSpawn_of_isWrite (htalk.writes e he)
  | stuck _ _ _ => exact .inl (by simp [Event.isSpawn])
  | tried name r outcome htalk reported =>
    exact .inr ⟨name, r, .ok outcome, _, rfl, rfl,
      fun e he => Event.isSpawn_of_isWrite (htalk.writes e he), reported,
      fun f hf => nomatch hf⟩
  | lost name r f =>
    refine .inr ⟨name, r, .error f, [], rfl, rfl, by simp, ?_, ?_⟩
    · intro status h
      exact nomatch h
    · rintro _ ⟨rfl⟩
      rfl

/-- What asks for a child begins with a flush, and starts the child at once if that goes well. -/
theorem flushed {name : String} {r : Request} (h : Deed (some (name, r)) result deed) :
    (∃ f, deed = [.flush (.error f)] ∧ result = .error f) ∨
      ∃ outcome rest, deed = .flush (.ok ()) :: .spawn r outcome :: rest := by
  cases h with
  | stuck _ _ f => exact .inl ⟨f, rfl, rfl⟩
  | tried _ _ outcome htalk reported => exact .inr ⟨_, _, rfl⟩
  | lost _ _ f => exact .inr ⟨_, _, rfl⟩

/-- The fault of a deed is that of a write, of a flush or of a lost child: some event `HasFault`. -/
theorem fault {f : Fault} (h : Deed child (.error f) deed) : ∃ e ∈ deed, e.HasFault f := by
  cases h with
  | talked htalk => exact htalk.fault f rfl
  | stuck _ _ _ => exact ⟨_, List.mem_singleton_self _, rfl⟩
  | tried _ _ outcome htalk reported =>
    obtain ⟨e', he', hfault⟩ := htalk.fault f rfl
    exact ⟨e', List.mem_cons_of_mem _ (List.mem_cons_of_mem _ he'), hfault⟩
  | lost _ _ _ => exact ⟨_, List.mem_cons_of_mem _ (List.mem_singleton_self _), rfl⟩

end Deed

section Console

variable {σ : Type} [Console σ]

/-- Texts that are written in order are a `Talk`, whether they can be written or not. -/
theorem Talk.say {α : Type} (ts : List String) (o : σ) (x : α) :
    Talk ((Console.putAll ts o).1.map fun _ => x) (Console.putEvents ts o) where
  writes _ := Console.isWrite_of_mem_putEvents
  fault f h := by
    refine Console.exists_fault_of_putAll ?_
    rcases hput : (Console.putAll ts o).1 with f' | ⟨⟩
    · rw [hput] at h
      obtain rfl : f' = f := by simpa [Except.map] using h
      rfl
    · rw [hput] at h
      cases h

/-- One `Talk` behind another, whose fault has been dealt with. -/
theorem Talk.append {α β : Type} {before : Except Fault α} {result : Except Fault β}
    {talk more : List Event} (h : Talk before talk) (hmore : Talk result more) :
    Talk result (talk ++ more) where
  writes e he := (List.mem_append.mp he).elim (h.writes e) (hmore.writes e)
  fault f hf :=
    let ⟨e, he, hfault⟩ := hmore.fault f hf
    ⟨e, List.mem_append_right _ he, hfault⟩

/-- The text of a builtin, or the reason why it cannot be written: either way a `Talk`. -/
theorem Act.guard_watched (texts : List String) (status : Status) (scene : Scene σ) :
    let guarded {τ : Type} [Console τ] : Act τ Status :=
      tryCatch (do Act.say texts; return status) fun f => do Act.say [f.message, "\n"]; return 1
    ∃ talk, (guarded : Act (Watched σ) Status).Mirrors guarded scene talk ∧
      Talk ((guarded : Act σ Status).run scene).1 talk := by
  intro guarded
  have hsay := Act.Mirrors.say_pure texts status scene
  have hrun := Act.run_say_pure texts status scene
  have hguarded := Act.run_tryCatch (do Act.say texts; return status)
    (fun f => do Act.say [f.message, "\n"]; return 1) scene
  have htalk := Talk.say texts scene.stage status
  -- Writing the text fails, and the reason is written; or it goes well, and the guard has no part
  -- in it.
  rcases hput : Console.putAll texts scene.stage with ⟨f | ⟨⟩, stage⟩
  · rw [hput] at hrun htalk
    rw [hrun] at hguarded
    have hreason := Act.Mirrors.say_pure [f.message, "\n"] (1 : Status) { scene with stage }
    refine ⟨_, hsay.tryCatch_error hrun hreason, ?_⟩
    rw [show (guarded : Act σ Status).run scene = _ from hguarded]
    dsimp only [Except.map]
    rw [Act.run_say_pure]
    exact htalk.append (.say _ _ _)
  · rw [hput] at hrun htalk
    rw [hrun] at hguarded
    refine ⟨_, hsay.tryCatch hrun, ?_⟩
    rw [show (guarded : Act σ Status).run scene = _ from hguarded]
    exact htalk

/-- A builtin writes, and nothing else: what it leaves behind is a `Talk`. -/
theorem Answer.deliver_watched (a : Answer) (scene : Scene σ) :
    ∃ talk, (a.deliver : Act (Watched σ) Status).Mirrors a.deliver scene talk ∧
      Talk ((a.deliver : Act σ Status).run scene).1 talk := by
  cases a with
  | untaken b stop =>
    refine ⟨_, Act.Mirrors.say_pure _ _ scene, ?_⟩
    show Talk (Act.run (do Act.say _; pure stop.status) scene).1 _
    rw [Act.run_say_pure]
    exact .say _ _ _
  | refused r =>
    refine ⟨_, Act.Mirrors.say_pure _ _ scene, ?_⟩
    show Talk (Act.run (do Act.say _; pure 1) scene).1 _
    rw [Act.run_say_pure]
    exact .say _ _ _
  | done session texts status findings =>
    obtain ⟨talk, hmirrors, htalk⟩ := Act.guard_watched texts status
      (⟨session, Console.logAll findings scene.stage⟩ : Scene σ)
    refine ⟨talk, ?_, htalk⟩
    exact (Act.Mirrors.noteAll findings scene).bind rfl
      ((Act.Mirrors.setSession session _).bind rfl hmirrors)

/-- What `External.execute` does once it is told how the child went. -/
def External.conclude (name : String) (r : Request) : Outcome → Act σ Status
  | .ok ending => do
    Act.note (.ended r.program ending)
    return ending.status
  | .error e => do
    Act.note (.spawnFailed r.program e)
    Act.say [name, ": command not found\n"]
    return Status.notFound

/-- Behind a child nothing is written but the report that it could not be started. -/
theorem External.conclude_watched (name : String) (r : Request) (outcome : Outcome)
    (scene : Scene σ) :
    ∃ talk, (conclude name r outcome : Act (Watched σ) Status).Mirrors (conclude name r outcome)
        scene talk ∧
      Talk ((conclude name r outcome : Act σ Status).run scene).1 talk ∧
      ∀ status, ((conclude name r outcome : Act σ Status).run scene).1 = .ok status →
        Reported name (.ok outcome) status (String.join (talk.map Event.text)) := by
  cases outcome with
  | ok ending =>
    have hnote := Act.Mirrors.note (.ended r.program ending) scene
    refine ⟨[], hnote.bind rfl (.pure ending.status _), ⟨by simp, fun f hf => nomatch hf⟩, ?_⟩
    rintro _ ⟨rfl⟩
    cases ending <;> exact ⟨rfl, rfl⟩
  | error e =>
    -- The report is two texts, the second of which may fail when the first is written.
    let texts := [name, ": command not found\n"]
    let noted : Scene σ := { scene with stage := Console.log (.spawnFailed r.program e) scene.stage }
    have hnote := Act.Mirrors.note (.spawnFailed r.program e) scene
    have hrun : ((conclude name r (.error e) : Act σ Status).run scene).1 =
        (Console.putAll texts noted.stage).1.map fun _ => Status.notFound :=
      congrArg Prod.fst (Act.run_say_pure texts Status.notFound noted)
    refine ⟨_, hnote.bind rfl (Act.Mirrors.say_pure texts Status.notFound noted), ?_, ?_⟩
    · rw [hrun]
      exact .say _ _ _
    · -- the report is complete if all of it could be written
      intro status hstatus
      rw [hrun] at hstatus
      rcases hput : (Console.putAll texts noted.stage).1 with f | ⟨⟩
      · rw [hput] at hstatus
        exact nomatch hstatus
      · rw [hput] at hstatus
        refine ⟨(Except.ok.inj hstatus).symm, ?_⟩
        rw [List.nil_append, Console.text_putEvents hput]
        simp [texts]

variable [Machine σ]

/-- `External.execute` is a flush, a child, and then `conclude`. -/
theorem External.execute_eq (name : String) (r : Request) :
    (execute name r : Act σ Status) = (do
      Act.flush
      let outcome ← Act.spawn r
      conclude name r outcome) := by
  unfold execute conclude
  refine congrArg (Act.flush >>= ·) (funext fun _ => congrArg (Act.spawn r >>= ·) ?_)
  funext outcome
  cases outcome <;> rfl

/-- Running a file leaves a `Deed` behind: a flush, and if that goes well the child and what comes
    behind it, unless the child is lost. -/
theorem External.execute_watched (name : String) (r : Request) (scene : Scene σ) :
    ∃ new, (execute name r : Act (Watched σ) Status).Mirrors (execute name r) scene new ∧
      Deed (some (name, r)) ((execute name r : Act σ Status).run scene).1 new := by
  rw [execute_eq, execute_eq]
  have hflush := Act.Mirrors.flush scene
  rcases hmade : Console.flush scene.stage with ⟨f | ⟨⟩, stage⟩
  · -- the flush fails, and nothing comes behind it
    have hrun : (Act.flush : Act σ Unit).run scene = (.error f, { scene with stage }) := by
      rw [Act.run_flush, hmade]
    rw [hmade] at hflush
    refine ⟨_, hflush.bind_error hrun, ?_⟩
    rw [Act.run_bind, hrun]
    exact .stuck name r f
  · have hrun : (Act.flush : Act σ Unit).run scene = (.ok (), { scene with stage }) := by
      rw [Act.run_flush, hmade]
    rw [hmade] at hflush
    have hspawn := Act.Mirrors.spawn r { scene with stage }
    rcases houtcome : Machine.spawn r stage with ⟨f | outcome, stage'⟩
    · -- the child is lost, and nothing comes behind it
      have hrun' : (Act.spawn r : Act σ Outcome).run { scene with stage } =
          (.error f, { scene with stage := stage' }) := by
        rw [Act.run_spawn, houtcome]
      rw [houtcome] at hspawn
      refine ⟨_, hflush.bind hrun (hspawn.bind_error hrun'), ?_⟩
      rw [Act.run_bind, hrun]
      dsimp only
      rw [Act.run_bind, hrun']
      exact .lost name r f
    · -- the child has ended, or could not be started
      have hrun' : (Act.spawn r : Act σ Outcome).run { scene with stage } =
          (.ok outcome, { scene with stage := stage' }) := by
        rw [Act.run_spawn, houtcome]
      rw [houtcome] at hspawn
      obtain ⟨talk, hconclude, htalk, hreported⟩ :=
        conclude_watched name r outcome { scene with stage := stage' }
      refine ⟨_, hflush.bind hrun (hspawn.bind hrun' hconclude), ?_⟩
      rw [Act.run_bind, hrun]
      dsimp only
      rw [Act.run_bind, hrun']
      exact .tried name r outcome htalk hreported

/-- Running a name of `Table.standard` leaves its `Deed` behind, for the child that the name asks
    for. -/
theorem Table.run_watched (name : String) (words : List String) {scene : Scene σ}
    (hknows : scene.session.KnowsBuiltins) :
    ∃ new, (standard.run name words : Act (Watched σ) Status).Mirrors (standard.run name words)
        scene new ∧
      Deed (scene.session.child? scene.stage name words)
        ((standard.run name words : Act σ Status).run scene).1 new := by
  -- The session and the table agree on which names are builtins.
  have hbuiltin := hknows.isBuiltin_eq name
  simp only [standard_run]
  unfold Session.child?
  cases hname : Builtin.named? name with
  | some b =>
    rw [hname] at hbuiltin
    obtain ⟨talk, hdeliver, htalk⟩ :=
      (b.answer scene.session scene.stage words).deliver_watched
        ({ scene with stage := Console.log (.dispatch name words) scene.stage } : Scene σ)
    refine ⟨talk, .get_bind fun events => ?_, ?_⟩
    · refine (Act.Mirrors.note _ scene).bind rfl ?_
      rw [Scene.watch, Watched.answer_eq]
      exact hdeliver
    · simpa only [hbuiltin] using .talked htalk
  | none =>
    rw [hname] at hbuiltin
    cases hfile : Lookup.command? scene.stage scene.session.searchPath scene.session.dir
        (Octets.ofText name) with
    | some path =>
      -- Lookup notes what it has found, and notes are no events.
      let found : Scene σ := ⟨scene.session, Console.log (.resolved name path) scene.stage⟩
      obtain ⟨new, hexecute, hdeed⟩ := External.execute_watched name
        (External.request scene.session path words)
        ⟨scene.session, Console.log (.dispatch name words) found.stage⟩
      refine ⟨new, .get_bind fun events => ?_, ?_⟩
      · simp only [Scene.watch, Watched.command?_eq, hfile]
        exact (Act.Mirrors.noteAll [.resolved name path] scene).bind rfl
          ((Act.Mirrors.note _ found).bind rfl hexecute)
      · rw [Act.run_bind, Act.run_get]
        simp only [hbuiltin, hfile]
        exact hdeed
    | none =>
      have hsay := Act.Mirrors.say_pure [name, ": not found\n"] Status.notFound scene
      refine ⟨Console.putEvents [name, ": not found\n"] scene.stage, .get_bind fun events => ?_, ?_⟩
      · simp only [Scene.watch, Watched.command?_eq, hfile]
        exact hsay
      · rw [Act.run_bind, Act.run_get]
        simp only [hbuiltin, hfile]
        rw [Act.run_say_pure]
        exact .talked (.say _ _ _)

end Console

end LineShell
