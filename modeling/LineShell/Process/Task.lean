import LineShell.Process.World

/-! # Processes side by side

A `Task` is what a process does, cut where it waits for something: in between, nothing else happens
in the world.  `Waiting.run` lets processes go on in turn, each as soon as the world is ready for
it. -/

namespace LineShell

/-- What a process does next, up to its end. -/
inductive Task where
  | ended (e : Ending) (w : World)
  /-- It goes on once the world is ready. -/
  | waits (w : World) (ready : World → Bool) (go : World → Task)
  /-- It has started another process, and goes on. -/
  | starts (w : World) (number : Nat) (child go : World → Task)

/-- A process that waits: it goes on in a world that is `ready`. -/
structure Waiting where
  number : Nat
  ready : World → Bool
  go : World → Task

namespace Task

/-- Take a process to where it waits or ends: the world then, and the processes that are
    `Waiting`. -/
def settle (number : Nat) : Task → World × List Waiting
  | ended e w => (w.finish number e, [])
  | waits w ready go => (w, [⟨number, ready, go⟩])
  | starts w child begin_ go =>
    let (w, others) := settle number (go w)
    (w, ⟨child, fun _ => true, begin_⟩ :: others)

end Task

namespace Waiting

/-- May the process go on? It is not `stopped`, and what it waits for is `ready`. -/
def isReady (p : Waiting) (w : World) : Bool :=
  !((w.peer? p.number).any (·.stopped)) && p.ready w

/-- Let processes go on in turn until `stop` holds of the world, or none of them `isReady`; at most
    so many times. -/
def run (stop : World → Bool) : Nat → World → List Waiting → World × List Waiting
  | 0, w, ps => (w, ps)
  | n + 1, w, ps =>
    if stop w then (w, ps)
    else
      match ps.span (!·.isReady w) with
      | (_, []) => (w, ps)
      | (ahead, p :: behind) =>
        let (w, more) := (p.go w).settle p.number
        run stop n w (ahead ++ behind ++ more)

/-- More turns than anybody takes, for `run`. -/
def boundless : Nat := 0x1000000000000

/-- How many turns are left to processes that nobody waits for, for `linger`. -/
def lingering : Nat := 100

/-- Let processes go on for a while that nobody waits for, for as many turns as `lingering`. -/
def linger (w : World) (ps : List Waiting) : World × List Waiting :=
  run (fun _ => false) lingering w ps

/-- Let processes go on until nobody can print anything any more, so that the world is not
    `isHeard`. -/
def drain (w : World) (ps : List Waiting) : World × List Waiting :=
  run (!·.isHeard) boundless w ps

end Waiting

end LineShell
