import LineShell.Proofs.Command.Standard
import LineShell.Shell.Script

/-! # Watched stages

A `Watched` stage is a stage beside a list of all that has happened on it: each write and each flush
with what came of it, each child with how it went, and each line that a source was asked for.
Watching changes nothing: an act on a watched stage does what the same act does on the stage alone,
and takes down some events.

* `Act.Mirrors.bind`         the events of two acts in a row
* `Console.putAll_watched`   the events of texts that are written in order -/

namespace LineShell

/-- Something that happens between a shell and its surroundings. -/
inductive Event where
  /-- A source was asked for a line. -/
  | read (answer : Except Fault (Option String))
  /-- A text was written that is not empty, or could not be. -/
  | write (text : String) (made : Except Fault Unit)
  /-- What had been written was passed on, or could not be. -/
  | flush (made : Except Fault Unit)
  /-- A child was asked for.  The `outcome` is a fault if the child has been lost. -/
  | spawn (request : Request) (outcome : Except Fault Outcome)

namespace Event

/-- Is the event a line that was asked for? -/
def isRead : Event → Bool
  | read _ => true
  | _ => false

/-- Is the event a write? -/
def isWrite : Event → Bool
  | write _ _ => true
  | _ => false

/-- Is the event an attempt to start a child? -/
def isSpawn : Event → Bool
  | spawn _ _ => true
  | _ => false

/-- The text that an event adds to the output. -/
def text : Event → String
  | write text (.ok ()) => text
  | _ => ""

/-- Did the event go wrong with the fault `f`? So do a `write` and a `flush` that fail, and a
    `spawn` whose child is lost; a child that could not be started is no fault. -/
def HasFault (f : Fault) : Event → Prop
  | write _ made | flush made => made = .error f
  | spawn _ outcome => outcome = .error f
  | read _ => False

/-- A write starts no child. -/
theorem isSpawn_of_isWrite {e : Event} (h : e.isWrite) : e.isSpawn = false := by
  cases e <;> trivial

/-- A write asks for no line. -/
theorem isRead_of_isWrite {e : Event} (h : e.isWrite) : e.isRead = false := by
  cases e <;> trivial

end Event

/-- A `stage` beside all that has happened on it, from the first event to the last. -/
structure Watched (σ : Type) where
  stage : σ
  events : List Event := []

/-- A source of lines for a shell on a stage that is `Watched`.  What it does to show its prompt is
    its own affair and no event. -/
structure Watched.Source (ρ : Type) where
  source : ρ

namespace Watched

variable {σ : Type}

/-- Take down one event more. -/
def add (e : Event) (o : Watched σ) : Watched σ := { o with events := o.events ++ [e] }

instance [Console σ] : Console (Watched σ) where
  write text o :=
    let (made, stage) := Console.write text o.stage
    (made, add (.write text made) { o with stage })
  flush o :=
    let (made, stage) := Console.flush o.stage
    (made, add (.flush made) { o with stage })
  log r o := { o with stage := Console.log r o.stage }

instance [Machine σ] : Machine (Watched σ) where
  status? o path := Machine.status? o.stage path
  spawn r o :=
    let (outcome, stage) := Machine.spawn r o.stage
    (outcome, add (.spawn r outcome) { o with stage })

/-- Ask the source for a line, on the stage alone. -/
def Source.read {ρ : Type} [LineSource ρ σ] (prompt : String) (r : Source ρ) (o : Watched σ) :
    Except Fault (Option String) × Source ρ × Watched σ :=
  let (answer, source, stage) := LineSource.read prompt r.source o.stage
  (answer, ⟨source⟩, add (.read answer) { o with stage })

instance {ρ : Type} [LineSource ρ σ] : LineSource (Source ρ) (Watched σ) where
  read := Source.read
  size r := LineSource.size σ r.source
  size_lt {prompt line r r' o o'} h := by
    simp only [Source.read, Prod.mk.injEq] at h
    obtain ⟨hline, rfl, -⟩ := h
    exact LineSource.size_lt (Prod.ext hline rfl)

theorem status?_eq [Machine σ] (o : σ) (events : List Event) :
    Machine.status? (⟨o, events⟩ : Watched σ) = Machine.status? o := rfl

/-- What a name means does not depend on what has happened. -/
theorem command?_eq [Machine σ] (o : σ) (events : List Event) (searchPath cwd name : Octets) :
    Lookup.command? (⟨o, events⟩ : Watched σ) searchPath cwd name =
      Lookup.command? o searchPath cwd name :=
  Lookup.command?_congr (status?_eq o events) searchPath cwd name

/-- Neither does what a builtin decides. -/
theorem answer_eq [Machine σ] [Arguments.Reader] (b : Builtin) (s : Session) (o : σ)
    (events : List Event) (words : List String) :
    b.answer s (⟨o, events⟩ : Watched σ) words = b.answer s o words :=
  b.answer_congr (status?_eq o events) s words

end Watched

/-! ### Acts on watched stages -/

/-- A scene whose stage is `Watched`, after some events. -/
def Scene.watch {σ : Type} (scene : Scene σ) (events : List Event) : Scene (Watched σ) :=
  ⟨scene.session, ⟨scene.stage, events⟩⟩

/-- On `scene`, the act `a` on the watched stage does what `b` does on the stage alone, and takes
    down the events `new`. -/
def Act.Mirrors {σ α : Type} (a : Act (Watched σ) α) (b : Act σ α) (scene : Scene σ)
    (new : List Event) : Prop :=
  ∀ events, a.run (scene.watch events) =
    ((b.run scene).1, (b.run scene).2.watch (events ++ new))

namespace Act.Mirrors

variable {σ α β : Type} {scene scene₁ : Scene σ} {new new₁ : List Event}

theorem pure (x : α) (scene : Scene σ) :
    (Pure.pure x : Act (Watched σ) α).Mirrors (Pure.pure x) scene [] :=
  fun events => by rw [List.append_nil]; rfl

/-- The events of two acts in a row. -/
theorem bind {a : Act (Watched σ) α} {b : Act σ α}
    {f : α → Act (Watched σ) β} {g : α → Act σ β} {x : α}
    (ha : a.Mirrors b scene new) (hb : b.run scene = (.ok x, scene₁))
    (hf : (f x).Mirrors (g x) scene₁ new₁) : (a >>= f).Mirrors (b >>= g) scene (new ++ new₁) := by
  intro events
  rw [run_bind, run_bind, ha events, hb]
  dsimp only
  rw [hf, List.append_assoc]

/-- A fault stops all that would come after it. -/
theorem bind_error {a : Act (Watched σ) α} {b : Act σ α}
    {f : α → Act (Watched σ) β} {g : α → Act σ β} {e : Fault}
    (ha : a.Mirrors b scene new) (hb : b.run scene = (.error e, scene₁)) :
    (a >>= f).Mirrors (b >>= g) scene new := by
  intro events
  rw [run_bind, run_bind, ha events, hb]

/-- An act that gives an answer needs nobody to deal with faults. -/
theorem tryCatch {a : Act (Watched σ) α} {b : Act σ α}
    {f : Fault → Act (Watched σ) α} {g : Fault → Act σ α} {x : α}
    (ha : a.Mirrors b scene new) (hb : b.run scene = (.ok x, scene₁)) :
    (MonadExcept.tryCatch a f).Mirrors (MonadExcept.tryCatch b g) scene new := by
  intro events
  have hwatched := run_tryCatch a f (scene.watch events)
  have halone := run_tryCatch b g scene
  rw [ha events, hb] at hwatched
  rw [hb] at halone
  exact hwatched.trans (by rw [show (MonadExcept.tryCatch b g).run scene = _ from halone])

/-- An act that deals with a fault takes its events down behind those of the fault. -/
theorem tryCatch_error {a : Act (Watched σ) α} {b : Act σ α}
    {f : Fault → Act (Watched σ) α} {g : Fault → Act σ α} {e : Fault}
    (ha : a.Mirrors b scene new) (hb : b.run scene = (.error e, scene₁))
    (hf : (f e).Mirrors (g e) scene₁ new₁) :
    (MonadExcept.tryCatch a f).Mirrors (MonadExcept.tryCatch b g) scene (new ++ new₁) := by
  intro events
  have hwatched := run_tryCatch a f (scene.watch events)
  have halone := run_tryCatch b g scene
  rw [ha events, hb] at hwatched
  rw [hb] at halone
  -- The act behind the fault runs on what the fault leaves, on both stages.
  refine hwatched.trans ?_
  dsimp only
  rw [hf, List.append_assoc, show (MonadExcept.tryCatch b g).run scene = _ from halone]

/-- An act that looks at the scene first. -/
theorem get_bind {f : Scene (Watched σ) → Act (Watched σ) β}
    {g : Scene σ → Act σ β}
    (h : ∀ events, (f (scene.watch events)).Mirrors (g scene) scene new) :
    (MonadState.get >>= f).Mirrors (MonadState.get >>= g) scene new :=
  fun events => h events events

theorem setSession (session : Session) (scene : Scene σ) :
    (Act.setSession session : Act (Watched σ) Unit).Mirrors (Act.setSession session)
      scene [] :=
  fun events => by rw [List.append_nil]; rfl

end Act.Mirrors

/-! ### Events of the basic acts -/

section Console

variable {σ : Type} [Console σ]

/-- The events of texts that are written in order, up to the first that fails. -/
def Console.putEvents : List String → σ → List Event
  | [], _ => []
  | t :: ts, o =>
    let (made, o') := put t o
    (if t = "" then [] else [.write t made]) ++
      match made with
      | .ok () => putEvents ts o'
      | .error _ => []

/-- A text that is empty is not written, and leaves no event behind. -/
theorem Console.put_watched (t : String) (o : σ) (events : List Event) :
    put t (⟨o, events⟩ : Watched σ) =
      ((put t o).1, ⟨(put t o).2, events ++ if t = "" then [] else [.write t (put t o).1]⟩) := by
  unfold put
  split
  · rw [List.append_nil]
  · rfl

/-- On a stage that is `Watched`, texts that are written in order leave `putEvents` behind. -/
theorem Console.putAll_watched (ts : List String) (o : σ) (events : List Event) :
    putAll ts (⟨o, events⟩ : Watched σ) =
      ((putAll ts o).1, ⟨(putAll ts o).2, events ++ putEvents ts o⟩) := by
  induction ts generalizing o events with
  | nil => simp [putEvents]
  | cons t ts ih =>
    rw [putAll, putAll, putEvents, put_watched]
    -- The writing stops with the first fault, and so do the events.
    rcases put t o with ⟨f | ⟨⟩, o'⟩
    · dsimp only
      rw [List.append_nil]
    · dsimp only
      rw [ih, List.append_assoc]

/-- Writing leaves nothing but writes behind. -/
theorem Console.isWrite_of_mem_putEvents {ts : List String} {o : σ} {e : Event}
    (h : e ∈ putEvents ts o) : e.isWrite := by
  induction ts generalizing o with
  | nil => exact absurd h List.not_mem_nil
  | cons t ts ih =>
    rw [putEvents, List.mem_append] at h
    obtain h | h := h
    · split at h
      · exact absurd h List.not_mem_nil
      · obtain rfl := List.mem_singleton.mp h
        rfl
    · split at h
      · exact ih h
      · exact absurd h List.not_mem_nil

/-- The fault that stops the writing is that of a write. -/
theorem Console.exists_fault_of_putAll {ts : List String} {o : σ} {f : Fault}
    (h : (putAll ts o).1 = .error f) : ∃ e ∈ putEvents ts o, e.HasFault f := by
  induction ts generalizing o with
  | nil => cases h
  | cons t ts ih =>
    rw [putAll] at h
    rw [putEvents]
    -- An empty text is no event, and has no fault.
    by_cases ht : t = ""
    · subst ht
      simpa using ih h
    · rcases hput : put t o with ⟨f' | ⟨⟩, o'⟩
      · rw [hput] at h
        obtain rfl : f' = f := by simpa using h
        exact ⟨.write t (.error f'), by simp [ht], rfl⟩
      · rw [hput] at h
        obtain ⟨e, he, hfault⟩ := ih h
        exact ⟨e, List.mem_append_right _ he, hfault⟩

/-- Texts that could all be written have been added to the output. -/
theorem Console.text_putEvents {ts : List String} {o : σ} (h : (putAll ts o).1 = .ok ()) :
    String.join ((putEvents ts o).map Event.text) = String.join ts := by
  induction ts generalizing o with
  | nil => rfl
  | cons t ts ih =>
    rw [putAll] at h
    rw [putEvents]
    rcases hput : put t o with ⟨f | ⟨⟩, o'⟩
    · rw [hput] at h
      cases h
    · rw [hput] at h
      -- An empty text adds nothing, whether it is an event or not.
      by_cases ht : t = ""
      · simp [ht, ih h]
      · simp [ht, ih h, Event.text]

namespace Act.Mirrors

variable {α : Type} {scene : Scene σ}

theorem say (ts : List String) (scene : Scene σ) :
    (Act.say ts : Act (Watched σ) Unit).Mirrors (Act.say ts) scene
      (Console.putEvents ts scene.stage) := by
  intro events
  rw [run_say, run_say]
  show ((Console.putAll ts (⟨scene.stage, events⟩ : Watched σ)).1, _) = _
  rw [Scene.watch, Console.putAll_watched]
  rfl

theorem flush (scene : Scene σ) :
    (Act.flush : Act (Watched σ) Unit).Mirrors Act.flush scene
      [.flush (Console.flush scene.stage).1] :=
  fun _ => rfl

theorem noteAll (rs : List Record) (scene : Scene σ) :
    (Act.noteAll rs : Act (Watched σ) Unit).Mirrors (Act.noteAll rs) scene [] := by
  intro events
  -- A log adds no event, so the list is the same behind each record.
  have hlog (o : σ) : rs.foldl (fun o r => Console.log r o) (⟨o, events⟩ : Watched σ) =
      ⟨rs.foldl (fun o r => Console.log r o) o, events⟩ := by
    induction rs generalizing o with
    | nil => rfl
    | cons r rs ih => exact ih (Console.log r o)
  rw [run_noteAll, run_noteAll, List.append_nil, Scene.watch, hlog]
  rfl

theorem note (r : Record) (scene : Scene σ) :
    (Act.note r : Act (Watched σ) Unit).Mirrors (Act.note r) scene [] :=
  noteAll [r] scene

omit [Console σ] in
theorem spawn [Machine σ] (r : Request) (scene : Scene σ) :
    (Act.spawn r : Act (Watched σ) Outcome).Mirrors (Act.spawn r) scene
      [.spawn r (Machine.spawn r scene.stage).1] :=
  fun _ => rfl

/-- Writing texts and giving an answer. -/
theorem say_pure (ts : List String) (x : α) (scene : Scene σ) :
    (do Act.say ts; Pure.pure x : Act (Watched σ) α).Mirrors (do Act.say ts; Pure.pure x) scene
      (Console.putEvents ts scene.stage) := by
  rcases hput : Console.putAll ts scene.stage with ⟨f | ⟨⟩, stage⟩
  · have hrun : (Act.say ts : Act σ Unit).run scene = (.error f, { scene with stage }) := by
      rw [run_say, hput]
    exact (say ts scene).bind_error hrun
  · have hrun : (Act.say ts : Act σ Unit).run scene = (.ok (), { scene with stage }) := by
      rw [run_say, hput]
    rw [← List.append_nil (Console.putEvents ts scene.stage)]
    exact (say ts scene).bind hrun (pure x { scene with stage })

end Act.Mirrors

/-- Writing texts and giving an answer ends with the answer, unless the writing fails. -/
theorem Act.run_say_pure {α : Type} (ts : List String) (x : α) (scene : Scene σ) :
    (do Act.say ts; pure x : Act σ α).run scene =
      ((Console.putAll ts scene.stage).1.map fun _ => x,
        { scene with stage := (Console.putAll ts scene.stage).2 }) := by
  rw [run_bind, run_say]
  rcases Console.putAll ts scene.stage with ⟨f | ⟨⟩, stage⟩ <;> rfl

end Console

end LineShell
