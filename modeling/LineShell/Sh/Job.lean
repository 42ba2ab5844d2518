import LineShell.Sh.Progress

/-! # Children

The processes that a process starts, and what it learns of their ends.  One in the background has a
place, the first that is free; the place of one whose end has been waited for is free again. -/

namespace LineShell.Sh

namespace Process

/-- The first number from `n` on that is not among some, which are in order. -/
def firstGap (n : Nat) : List Nat → Nat
  | [] => n
  | k :: ks => if k = n then firstGap (n + 1) ks else n

/-- Claim the first place that is free for a new process, by `firstGap`.  One whose end has been
    waited for does not hold its place. -/
def claim (p : Process) : Nat × Process :=
  let held := p.jobs.filter fun j => !(j.isOver && j.waited)
  let place := firstGap 1 ((held.map (·.place)).mergeSort)
  (place, { p with jobs := p.jobs.filter (·.place != place) })

/-- The process in the background that a word such as `%1` or a number means, or what is wrong with
    the word. -/
def job? (p : Process) (w : Octets) : Except Octets Job :=
  let orElse := fun (text : Octets) (j? : Option Job) => match j? with
    | some j => Except.ok j
    | none => .error text
  let unknown := "No such job: " ++ w
  match w.toList with
  | ['%'] | ['%', '%'] | ['%', '+'] => orElse "No current job" p.jobs.head?
  | ['%', '-'] => orElse "No previous job" p.jobs.tail.head?
  | '%' :: rest =>
    orElse unknown ((Text.digits? rest).bind fun n => p.jobs.find? (·.place == n))
  | _ => orElse unknown ((Text.natural? w).bind fun n => p.jobs.find? (·.number == n))

end Process

/-- The status that an ending gives: 128 more than the signal, if it is one. -/
def statusOf : Ending → Nat
  | .exited n => n
  | .killed n => 128 + n

namespace Job

/-- How far a process in the background has come: `Running`, `Done` or what ended it. -/
def state (j : Job) : Octets :=
  match if j.isOver then j.ending else none with
  | none => "Running"
  | some (.exited 0) => "Done"
  | some (.exited n) => "Done(" ++ toString n ++ ")"
  | some (.killed n) => Signal.description n

/-- The number of the first process of a `Job`. -/
def first (j : Job) : Nat := (j.front.map (·.1)).headD j.number

/-- The same text, filled up to the column of the commands. -/
def filled (text : Octets) : Octets :=
  text ++ String.ofList (List.replicate (max 1 (33 - text.length)) ' ')

/-- A line about a process in the background, or one for each of its processes with their numbers;
    `mark` tells whether it is the latest. -/
def line (j : Job) (mark : Char) (numbered : Bool) : Octets :=
  let place := "[" ++ toString j.place ++ "] " ++ String.singleton mark ++ " "
  let indent := String.ofList (List.replicate (place.length + 1) ' ')
  if numbered then
    let others := ((j.front.map (·.1)) ++ [j.number]).tail
    filled (place ++ toString j.first ++ " " ++ j.state) ++
      String.join (others.map fun n => " |\n" ++ filled (indent ++ toString n ++ " ")) ++ "\n"
  else filled (place ++ j.state) ++ String.join (j.front.map fun _ => " | ") ++ "\n"

end Job

namespace Run

/-- Tell of a child that a signal has ended, by `Signal.description`. -/
def report (e : Ending) : Run Unit := do
  if let .killed n := e then
    if n ≠ 2 && n ≠ Signal.brokenPipe then
      let _ ← write 2 (Signal.description n ++ "\n")

/-- A child has ended of which nobody else has taken notice: the process is sent
    `Signal.childEnded`. -/
def bereave : Run Unit :=
  modify fun p => { p with
    world := (p.world.send p.number Signal.childEnded).toOption.getD p.world }

/-- Take notice of the children that have ended, in the `jobs` that they belong to. -/
def reap : Run Unit :=
  modify fun p => match p.world.endedChildren p.number with
    | [] => p
    | ended => { p with
      world := ended.foldl (fun w child => w.dismiss child.1) p.world
      jobs := p.jobs.map fun j => { j with
        ending := j.ending.or (ended.lookup j.number)
        front := j.front.map fun (n, e) => (n, e.or (ended.lookup n)) } }

/-- Wait for the ends of some children, and `report` them; how the last one has ended. -/
def awaitAll (children : List Nat) : Run Ending := do
  let mut last := Ending.exited 0
  for number in children do
    waitUntil fun w => (w.ending? number).isSome
    let p ← get
    last := (p.world.ending? number).getD (.killed Signal.kill)
    set { p with world := p.world.dismiss number }
    report last
  reap
  return last

/-- Wait until a process in the background has ended, or none is left that has not: `none` then, or
    the signal that comes in between if there are arrangements for it. -/
def awaitJobs (isDone : Process → Bool) : Run (Option Nat) := do
  let step := fun (_ : Option Nat) => do
    reap
    let p ← get
    if isDone p then return (none, false)
    match ← called with
    | some signal => return (some signal, false)
    | none =>
      let number := p.number
      waitUntil (fun w => !(w.endedChildren number).isEmpty) true
      return (none, true)
  repeated step boundless none

end Run

end LineShell.Sh
