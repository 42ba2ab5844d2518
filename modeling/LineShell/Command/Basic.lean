import LineShell.Console.Basic

/-! # Commands

A `Scene` is all that a command can touch: the session, and the stage, which is both the console
and the machine of the shell.  An `Act` is something done on a scene, which ends with an answer or a
fault; what was done before a fault stays done.  A `Factory` makes the commands that it knows, and a
table lists factories in the order in which they are asked.

* `Act.run_bind`         an act after another one begins on the scene that the first one leaves
* `Act.run_tryCatch`     so does the act that deals with a fault
* `Table.create?_append` the factories of a second table are asked after those of a first -/

namespace LineShell

/-- What a command can touch: the session, and a stage of type `σ`. -/
structure Scene (σ : Type) where
  session : Session
  stage : σ

/-- Something done on a `Scene`, which may end with a `Fault`. -/
abbrev Act (σ : Type) := ExceptT Fault (StateM (Scene σ))

namespace Act

variable {σ α β : Type}

/-- Do an act on a scene: the answer or the fault, and the scene that is left. -/
def run (a : Act σ α) (scene : Scene σ) : Except Fault α × Scene σ :=
  ExceptT.run a scene

/-- Do something on the stage, and leave the session alone. -/
def onStage (f : σ → Except Fault α × σ) : Act σ α :=
  ExceptT.mk fun scene =>
    let (answer, stage) := f scene.stage
    (answer, { scene with stage })

/-- Put the session into a state. -/
def setSession (session : Session) : Act σ Unit :=
  modify fun scene => { scene with session }

variable [Console σ]

/-- Write texts in order with `Console.putAll`, up to the first that fails. -/
def say (texts : List String) : Act σ Unit := onStage (Console.putAll texts)

/-- Pass on what has been written with `Console.flush`. -/
def flush : Act σ Unit := onStage Console.flush

/-- Note a log record with `Console.log`. -/
def note (r : Record) : Act σ Unit := onStage fun o => (.ok (), Console.log r o)

/-- Note log records in order. -/
def noteAll (rs : List Record) : Act σ Unit :=
  onStage fun o => (.ok (), rs.foldl (fun o r => Console.log r o) o)

/-- Run a child to its end with `Machine.spawn`.  If it is lost on the way the act ends with the
    fault. -/
def spawn [Machine σ] (r : Request) : Act σ Outcome := onStage (Machine.spawn r)

/-! ### What acts do to a scene -/

omit [Console σ] in
@[simp] theorem run_pure (a : α) (scene : Scene σ) :
    run (pure a : Act σ α) scene = (.ok a, scene) := rfl

omit [Console σ] in
/-- An act after another one begins on the scene that the first one leaves; a fault stops it. -/
theorem run_bind (a : Act σ α) (f : α → Act σ β) (scene : Scene σ) :
    run (a >>= f) scene =
      match run a scene with
      | (.ok x, scene) => run (f x) scene
      | (.error e, scene) => (.error e, scene) := by
  show (ExceptT.bindCont f (run a scene).1 (run a scene).2) = _
  rcases run a scene with ⟨x | x, s⟩ <;> rfl

omit [Console σ] in
/-- An act that deals with a fault begins on the scene that the fault left. -/
theorem run_tryCatch (a : Act σ α) (f : Fault → Act σ α) (scene : Scene σ) :
    run (tryCatch a f) scene =
      match run a scene with
      | (.ok x, scene) => (.ok x, scene)
      | (.error e, scene) => run (f e) scene := by
  simp only [run, tryCatch, tryCatchThe, MonadExceptOf.tryCatch, ExceptT.tryCatch, ExceptT.run,
    ExceptT.mk, bind, StateT.bind]
  rcases a scene with ⟨x | x, s⟩ <;> rfl

omit [Console σ] in
@[simp] theorem run_get (scene : Scene σ) :
    run (get : Act σ (Scene σ)) scene = (.ok scene, scene) := rfl

@[simp] theorem run_say (texts : List String) (scene : Scene σ) :
    run (say texts) scene =
      ((Console.putAll texts scene.stage).1,
        { scene with stage := (Console.putAll texts scene.stage).2 }) := rfl

@[simp] theorem run_flush (scene : Scene σ) :
    run flush scene =
      ((Console.flush scene.stage).1,
        { scene with stage := (Console.flush scene.stage).2 }) := rfl

@[simp] theorem run_noteAll (rs : List Record) (scene : Scene σ) :
    run (noteAll rs) scene =
      (.ok (), { scene with stage := rs.foldl (fun o r => Console.log r o) scene.stage }) :=
  rfl

omit [Console σ] in
@[simp] theorem run_spawn [Machine σ] (r : Request) (scene : Scene σ) :
    run (spawn r) scene =
      ((Machine.spawn r scene.stage).1,
        { scene with stage := (Machine.spawn r scene.stage).2 }) := rfl

end Act

/-- Something that can be executed, and what the log says about its finding. -/
structure Command (σ : Type) where
  findings : List Record := []
  execute : Act σ Status

/-- A maker of commands.  It is asked with `create?` for a name and its words. -/
structure Factory (σ : Type) where
  /-- The builtin that is made, if it is one. -/
  builtinName : Option String := none
  /-- The command for a name and its words, in a session on a stage; `none` if the factory does
      not know the name. -/
  create? : Session → σ → String → List String → Option (Command σ)

/-- The factories of a shell, in the order in which they are asked. -/
abbrev Table (σ : Type) := List (Factory σ)

namespace Table

variable {σ : Type}

/-- The command of the first factory whose `create?` makes one. -/
def create? (table : Table σ) (session : Session) (stage : σ) (name : String)
    (words : List String) : Option (Command σ) :=
  table.findSome? fun f => f.create? session stage name words

/-- The names of the builtins in a table: the `builtinName` of each factory that has one. -/
def builtinNames (table : Table σ) : List String := table.filterMap (·.builtinName)

end Table

end LineShell
