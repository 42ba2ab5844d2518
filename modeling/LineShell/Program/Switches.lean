import LineShell.Process.Launch

/-! # Small programs of the machine

What the small programs have in common: how they print (`put`, `tell`), how they show a name
(`shown`), how they read the options among their words (`Switches.read`), what they do with words
that they cannot read (`refuse`) and the frame in which those that work on paths run
(`Switches.run`). -/

namespace LineShell.Program

/-- Let a program print on its open file `fd`. -/
def put (s : Start) (fd : Nat) (text : Octets) (w : World) : World :=
  let printed := ((w.descriptors s.number).handle? fd).bind fun h => (w.write h text).toOption
  printed.getD w

/-- Let a program report something under its name, on the errors: `name: text`. -/
def tell (s : Start) (text : Octets) (w : World) : World :=
  put s 2 (s.image.name ++ ": " ++ text ++ "\n") w

/-- An octet that is not `isPrinted` as it is shown: `\n`, say, or its number as in `\001`. -/
def escaped (c : Char) : List Char :=
  match c with
  | '\x07' => ['\\', 'a']
  | '\x08' => ['\\', 'b']
  | '\t' => ['\\', 't']
  | '\n' => ['\\', 'n']
  | '\x0b' => ['\\', 'v']
  | '\x0c' => ['\\', 'f']
  | '\r' => ['\\', 'r']
  | c =>
    let digit := fun (n : Nat) => Char.ofNat (48 + n % 8)
    ['\\', digit (c.toNat / 64), digit (c.toNat / 8), digit c.toNat]

/-- Is the octet printed as it is? Those from the blank to `~` are. -/
def isPrinted (c : Char) : Bool := ' ' ≤ c && c ≤ '~'

/-- May the octet stand between double quotes? -/
def isTame (c : Char) : Bool := c.isAlphanum || c ∈ "%+,-./:@]_\x7b\x7d' ".toList

/-- The rest of a name between quotes `'`, the last of which may have been for octets that are not
    printed. -/
def requoted (escapes : Bool) : List Char → List Char
  | [] => ['\'']
  | c :: cs =>
    if !isPrinted c then
      (if escapes then [] else "'$'".toList) ++ escaped c ++ requoted true cs
    else
      (if escapes then "''".toList else []) ++ (if c = '\'' then "'\\''".toList else [c]) ++
        requoted false cs

/-- A name as it is shown in a report: `'name'` if there is nothing special about it. -/
def shown (name : Octets) : Octets :=
  let cs := name.toList
  if cs.contains '\'' && cs.all isTame then "\"" ++ name ++ "\""
  else String.ofList ('\'' :: requoted false cs)

/-- End a program that cannot do with its words: it can `tell` what is wrong with them, with some
    advice. -/
def refuse (s : Start) (code : Nat) (text : Octets) (w : World) : Task :=
  let advice := "Try '" ++ s.image.name ++ " --help' for more information.\n"
  .ended (.exited code) (put s 2 advice (tell s text w))

/-- The options of a program that is asked for some `Wish`: what each of them changes about it. -/
structure Switches (Wish : Type) where
  /-- An option of one character. -/
  short? : Char → Option (Wish → Wish)
  /-- An option that is a word, or what is wrong with it. -/
  long : Octets → Except Octets (Wish → Wish)
  /-- The options stand before all other words, and not among them. -/
  leading : Bool := false

/-- What is wrong with a word that is no option. -/
def unknownOption (word : Octets) : Octets := "unrecognized option '" ++ word ++ "'"

namespace Switches

variable {Wish : Type} (options : Switches Wish)

/-- The wish with those of some options of one character, as in `-pv`, or the first that is none. -/
def shorts (wish : Wish) : List Char → Except Char Wish
  | [] => .ok wish
  | c :: cs => match options.short? c with
    | some change => shorts (change wish) cs
    | none => .error c

/-- What the words ask for, and those among them that are no options; or what is wrong with
    them. -/
def read (wish : Wish) : List Octets → Except Octets (Wish × List Octets)
  | [] => .ok (wish, [])
  | word :: rest =>
    match word.toList with
    | ['-', '-'] => .ok (wish, rest)
    | '-' :: '-' :: _ =>
      match options.long word with
      | .ok change => read (change wish) rest
      | .error text => .error text
    | '-' :: c :: cs =>
      match options.shorts wish (c :: cs) with
      | .ok wish => read wish rest
      | .error c => .error ("invalid option -- '" ++ String.ofList [c] ++ "'")
    | _ =>
      if options.leading then .ok (wish, word :: rest)
      else (read wish rest).map fun (wish, words) => (wish, word :: words)

/-- Run a program that does `one` thing with each of the paths among its words.  Whether each has
    gone well is what its status tells; words that it cannot read, or none, are reported instead. -/
def run (wish : Wish) (one : Start → Wish → Octets → World → Bool × World) (s : Start)
    (w : World) : Task :=
  match options.read wish s.image.arguments with
  | .error text => refuse s 1 text w
  | .ok (_, []) => refuse s 1 "missing operand" w
  | .ok (wish, paths) =>
    let (good, w) := paths.foldl (fun (good, w) path =>
      let (here, w) := one s wish path w
      (good && here, w)) (true, w)
    .ended (.exited (if good then 0 else 1)) w

end Switches

end LineShell.Program
