import LineShell.Program.Switches

/-! # A program that removes directories

It removes the empty directories that it is given, and with `-p` those that they stood in, as far as
these have become empty. -/

namespace LineShell.Program.Removal

/-- What is asked for, by `-p`, `-v` and `--ignore-fail-on-non-empty`. -/
structure Wish where
  /-- The directories around are to be removed too. -/
  parents : Bool := false
  /-- One that is not empty may stay. -/
  lenient : Bool := false
  /-- What is tried is told. -/
  verbose : Bool := false

/-- The options of the program. -/
def options : Switches Wish where
  short?
    | 'p' => some fun wish => { wish with parents := true }
    | 'v' => some fun wish => { wish with verbose := true }
    | _ => none
  long
    | "--parents" | "--path" => .ok fun wish => { wish with parents := true }
    | "--ignore-fail-on-non-empty" => .ok fun wish => { wish with lenient := true }
    | "--verbose" => .ok fun wish => { wish with verbose := true }
    | word => .error (unknownOption word)

/-- Why a directory stays: `Errno.text`, or that the path is a link with a slash behind it. -/
def reason (w : World) (dir : Location) (path : Octets) (e : Errno) : Octets :=
  let bare := (path.toList.reverse.dropWhile (· = '/')).reverse
  let isLink := match w.files.find false dir (String.ofList bare) with
    | .ok ⟨_, some (.link _)⟩ => true
    | _ => false
  if e = .notDirectory && bare.length < path.length && isLink then "Symbolic link not followed"
  else e.text

/-- The path of the directory that another one stands in, if the path tells: that of `a/b` is
    `a`. -/
def around? (path : Octets) : Option Octets :=
  match (path.toList.reverse.dropWhile (· = '/')).dropWhile (· ≠ '/') with
  | [] => none
  | cs => match cs.dropWhile (· = '/') with
    | [] => some "/"
    | cs => some (String.ofList cs.reverse)

/-- Try to remove a directory, and as many around it as are wished for but at most `n`; the flag
    tells whether that has gone well. -/
def removeUp (s : Start) (wish : Wish) (inner : Bool) : Nat → Octets → World → Bool × World
  | 0, _, w => (true, w)
  | n + 1, path, w =>
    let w := if wish.verbose then
        put s 1 (s.image.name ++ ": removing directory, " ++ shown path ++ "\n") w
      else w
    match w.files.removeDirectory s.directory path with
    | .ok files =>
      let w := { w with files }
      match if wish.parents then around? path else none with
      | some path => removeUp s wish true n path w
      | none => (true, w)
    | .error e =>
      if wish.lenient && e = .notEmpty then (true, w)
      else
        let kind := if inner && e ≠ .notDirectory then "directory " else ""
        let why := if inner then e.text else reason w s.directory path e
        (false, tell s ("failed to remove " ++ kind ++ shown path ++ ": " ++ why) w)

/-- Run the program: `removeUp` for each path. -/
def run : Launch :=
  options.run {} fun s wish path w => removeUp s wish false (path.length + 1) path w

end LineShell.Program.Removal
