import LineShell.Program.Switches

/-! # A program that makes directories

It makes the directories that it is given, and with `-p` those on the way to them, as far as they are
not there yet. -/

namespace LineShell.Program.Making

/-- What is asked for, by `-p` and `-v`. -/
structure Wish where
  /-- The directories on the way are to be made too, and one that is there is as good as made. -/
  parents : Bool := false
  /-- What is made is told. -/
  verbose : Bool := false

/-- The options of the program. -/
def options : Switches Wish where
  short?
    | 'p' => some fun wish => { wish with parents := true }
    | 'v' => some fun wish => { wish with verbose := true }
    | _ => none
  long
    | "--parents" => .ok fun wish => { wish with parents := true }
    | "--verbose" => .ok fun wish => { wish with verbose := true }
    | word => .error (unknownOption word)

/-- The directories on the way along the rest of a path, and the path itself in the end; `done` is
    what comes before the rest, the last character first. -/
def along (done : List Char) : List Char → List Octets
  | [] => [String.ofList done.reverse]
  | c :: cs =>
    -- The path itself may end with slashes; a directory on the way ends before the first of them.
    let isOnWay := c = '/' && done.head?.any (· ≠ '/') && cs.any (· ≠ '/')
    (if isOnWay then [String.ofList done.reverse] else []) ++ along (c :: done) cs

/-- Make one directory; the flag tells whether that has gone well.  One that is `onWay` to another
    has to be a directory in the end, however it has come there. -/
def makeOne (s : Start) (wish : Wish) (onWay : Bool) (path : Octets) (w : World) : Bool × World :=
  match w.files.addDirectory s.directory path with
  | .ok files =>
    let w := { w with files }
    (true, if wish.verbose then
        put s 1 (s.image.name ++ ": created directory " ++ shown path ++ "\n") w
      else w)
  | .error e =>
    let fail := fun (e : Errno) =>
      (false, tell s ("cannot create directory " ++ shown path ++ ": " ++ e.text) w)
    if !wish.parents then fail e
    else match w.files.open? s.directory path with
      | .ok (_, .directory) => (true, w)
      | .ok _ => fail (if onWay then .notDirectory else e)
      | .error _ => fail e

/-- Make directories in turn with `makeOne`, up to the first that cannot be made. -/
def makeWay (s : Start) (wish : Wish) : List Octets → World → Bool × World
  | [], w => (true, w)
  | path :: rest, w =>
    match makeOne s wish (!rest.isEmpty) path w with
    | (true, w) => makeWay s wish rest w
    | (false, w) => (false, w)

/-- Run the program: `makeWay` for each path. -/
def run : Launch :=
  options.run {} fun s wish path w =>
    makeWay s wish (if wish.parents then along [] path.toList else [path]) w

end LineShell.Program.Making
