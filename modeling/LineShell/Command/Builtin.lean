import LineShell.Command.Arguments
import LineShell.Command.Basic
import LineShell.Lookup
import LineShell.Path.Resolve
import LineShell.Text.Numeral

/-! # Builtins

The commands that the shell carries out itself.  What a builtin does is decided before anything is
written: `Builtin.answer` reads the session and the machine and gives an `Answer`, and
`Answer.deliver` puts the answer into effect and writes its text.

A builtin is called with its words behind a mark, which makes every word an operand, whatever it
looks like; the first word beyond what a builtin takes makes it do nothing at all.

* `Builtin.operands_mark`   the words that a builtin takes, or the first that it does not
* `Builtin.answer_eq`       what a builtin decides, told by its words -/

namespace LineShell

/-- The commands that the shell carries out itself. -/
inductive Builtin where
  | exit
  | echo
  | pwd
  | cd
  | type
  deriving DecidableEq, Repr

/-- Why a builtin does not do what it was asked for. -/
inductive Refusal where
  | missingArgument (b : Builtin)
  | notANumber (word : String)
  | homeNotSet
  | noSuchDirectory (word : String)
  deriving DecidableEq, Repr

/-- What a name means as a command. -/
inductive Meaning where
  | builtin
  | file (path : Octets)
  | nothing
  deriving DecidableEq, Repr

/-- What a builtin decides before anything is written. -/
inductive Answer where
  /-- Its arguments are not taken. -/
  | untaken (b : Builtin) (stop : Arguments.Stop)
  | refused (r : Refusal)
  /-- The session that is left, the texts to write, the status, and what the log says. -/
  | done (session : Session) (texts : List String) (status : Status) (findings : List Record)
  deriving DecidableEq, Repr

namespace Builtin

/-- The name that calls the builtin. -/
def name : Builtin → String
  | exit => "exit"
  | echo => "echo"
  | pwd => "pwd"
  | cd => "cd"
  | type => "type"

/-- All builtins, in the order in which they are looked up. -/
def all : List Builtin := [exit, echo, pwd, cd, type]

/-- How many operands a builtin takes at most; `none` if there is no limit. -/
def limit? : Builtin → Option Nat
  | exit | cd => some 1
  | pwd => some 0
  | echo | type => none

/-- The first word beyond the `limit?` of the builtin. -/
def surplus? (b : Builtin) (words : List String) : Option String :=
  b.limit?.bind fun n => words[n]?

/-! ### The arguments of a builtin -/

/-- What a builtin takes: as many operands as there is room for.  It has no `usage`, since nobody
    can ask for it behind a mark. -/
def grammar (b : Builtin) : Arguments.Grammar (List String) where
  operand? word taken :=
    if b.limit?.all (taken.length < ·) then some (taken ++ [word]) else none
  greedy := b = type

/-- The operands that a builtin finds in its arguments with the `Arguments.Reader`.  `echo` reads
    them in a way of its own: it takes all of them as they are, but for a mark in front. -/
def operands [Arguments.Reader] (b : Builtin) (arguments : List String) :
    Except Arguments.Stop (List String) :=
  match b with
  | echo => .ok (if arguments.head? = some Arguments.mark then arguments.tail else arguments)
  | exit | pwd | cd | type => Arguments.Reader.read b.grammar [] arguments

private theorem takeOperand_of_room {b : Builtin} {taken : List String}
    (hroom : ∀ n ∈ b.limit?, taken.length < n) (word : String) :
    b.grammar.takeOperand taken word = .ok (taken ++ [word]) := by
  have hall : b.limit?.all (taken.length < ·) = true := by
    cases hlimit : b.limit? <;> simp_all
  simp only [Arguments.Grammar.takeOperand, grammar, hall, ↓reduceIte]

private theorem takeOperand_of_full {b : Builtin} {taken : List String}
    (hfull : b.limit? = some taken.length) (word : String) :
    b.grammar.takeOperand taken word = .error (.unrecognized word) := by
  simp [Arguments.Grammar.takeOperand, grammar, hfull]

/-- Operands are taken behind others until there is no room. -/
private theorem foldlM_takeOperand (b : Builtin) (taken : List String)
    (hroom : ∀ n ∈ b.limit?, taken.length ≤ n) (words : List String) :
    words.foldlM b.grammar.takeOperand taken =
      match b.limit?.bind fun n => words[n - taken.length]? with
      | some word => .error (.unrecognized word)
      | none => .ok (taken ++ words) := by
  induction words generalizing taken with
  | nil => cases b.limit? <;> simp [pure, Except.pure]
  | cons word words ih =>
    rw [List.foldlM_cons]
    by_cases hfull : b.limit? = some taken.length
    · simp [takeOperand_of_full hfull, hfull, bind, Except.bind]
    · have hlt (n : Nat) (hn : n ∈ b.limit?) : taken.length < n := by
        refine Nat.lt_of_le_of_ne (hroom n hn) ?_
        rintro rfl
        exact hfull hn
      rw [takeOperand_of_room hlt]
      refine (ih (taken ++ [word]) (by simpa [Nat.succ_le_iff] using hlt)).trans ?_
      cases hlimit : b.limit? with
      | none => simp
      | some n =>
        have hindex : n - taken.length = n - (taken.length + 1) + 1 := by
          have := hlt n hlimit
          omega
        simp [hindex]

/-- Behind an `Arguments.mark` a builtin takes its words as they are, or does not take its
    `surplus?`.  No word is an option, and none asks for help. -/
theorem operands_mark [Arguments.Reader] (b : Builtin) (words : List String) :
    b.operands (Arguments.mark :: words) =
      match b.surplus? words with
      | some word => .error (.unrecognized word)
      | none => .ok words := by
  have hread : Arguments.Reader.read b.grammar [] (Arguments.mark :: words) = _ :=
    (Arguments.Reader.read_mark _ _ _).trans (b.foldlM_takeOperand [] (by simp) words)
  cases b with
  | echo => rfl
  | exit | pwd | cd | type => exact hread

end Builtin

/-- What is written about arguments that are not taken, one text after the other.  The last line
    gets an end if it has none. -/
def Arguments.Stop.texts (usage : String) (stop : Arguments.Stop) : List String :=
  let text := stop.message usage
  if text.toList.getLast? = some '\n' then [text] else [text, "\n"]

theorem Arguments.Stop.texts_unrecognized (usage word : String) :
    (unrecognized word).texts usage = ["Unrecognized argument: " ++ word ++ "\n"] := by
  have hend (front : String) : (front ++ "\n").toList.getLast? = some '\n' := by
    rw [String.toList_append]
    exact List.getLast?_concat
  unfold texts message
  dsimp only
  rw [if_pos (hend _)]

/-- The status of a builtin whose arguments are not taken: `2`, or `0` if help has been asked
    for. -/
def Arguments.Stop.status (stop : Arguments.Stop) : Status := if stop.isMistake then 2 else 0

/-- The message of a refusal, in the texts that are written one by one. -/
def Refusal.texts : Refusal → List String
  | missingArgument b => [b.name, ": missing argument"]
  | notANumber word => ["exit: ", word, ": numeric argument required"]
  | homeNotSet => ["cd: HOME not set"]
  | noSuchDirectory word => ["cd: ", word, ": No such file or directory"]

/-! ### The operands of `exit` -/

/-- The status that a word writes: a decimal number with an optional sign, from `-2³¹` to `2³¹ -
    1`. -/
def Status.ofWord? (word : String) : Option Status :=
  (Text.integer? word).filter fun n => -0x80000000 ≤ n && n < 0x80000000

/-! ### The operands of `cd` -/

namespace Session

/-- The home directory, the value of `HOME`; an empty one does not count. -/
def home? (s : Session) : Option String := (s.var? "HOME").filter (· ≠ "")

/-- The path that an operand of `cd` means: a `~` that stands alone or before a slash is the home
    directory, and what follows it lies inside. -/
def expandHome (s : Session) (target : String) : Except Refusal String :=
  match target.toList with
  | '~' :: rest =>
    if rest = [] ∨ rest.head? = some '/' then
      match s.home? with
      | none => .error .homeNotSet
      | some home =>
        -- With a slash in front the rest would not lie inside the home directory.
        let inside := rest.dropWhile (· = '/')
        .ok (if inside = [] then home else Path.join home (String.ofList inside))
    else .ok target
  | _ => .ok target

/-- The directory that `cd` goes to: where `Path.resolve?` leads, if that is a directory. -/
def destination {η : Type} [Machine η] (s : Session) (w : η) (target : String) :
    Except Refusal Octets := do
  let path ← s.expandHome target
  match Path.resolve? s.dir (Octets.ofText path) with
  | some dir => if Machine.isDirectory w dir then .ok dir else .error (.noSuchDirectory target)
  | none => .error (.noSuchDirectory target)

/-! ### The operands of `type` -/

/-- What a name means as a command: a builtin, the file that `Lookup.command?` finds, or nothing. -/
def meaning {η : Type} [Machine η] (s : Session) (w : η) (name : String) : Meaning :=
  if s.isBuiltin name then .builtin
  else match Lookup.command? w s.searchPath s.dir (Octets.ofText name) with
    | some path => .file path
    | none => .nothing

end Session

/-- How `type` reports the meaning of a name.  The path of a file is shown by `Octets.toText`, as
    far as it is text. -/
def Meaning.texts (name : String) : Meaning → List String
  | builtin => [name, " is a shell builtin\n"]
  | file path => [name, " is ", Octets.toText path, "\n"]
  | nothing => [name, ": not found\n"]

namespace Builtin

variable {η : Type} [Machine η]

/-- What a builtin decides about operands that are not too many. -/
def verdict (b : Builtin) (s : Session) (w : η) (words : List String) : Answer :=
  match b with
  | exit =>
    match words.head? with
    | none => .done { s with pendingExit := some 0 } [] 0 []
    | some word =>
      match Status.ofWord? word with
      | some status => .done { s with pendingExit := some status } [] status []
      | none => .refused (.notANumber word)
  | echo => .done s [" ".intercalate words, "\n"] 0 []
  | pwd => .done s [Octets.toText s.dir, "\n"] 0 []
  | cd =>
    match words.head? with
    | none => .refused (.missingArgument .cd)
    | some target =>
      match s.destination w target with
      | .ok dir => .done { s with dir } [] 0 [.moved target dir]
      | .error r => .refused r
  | type =>
    if words = [] then .refused (.missingArgument .type)
    else
      .done s (words.flatMap fun name => (s.meaning w name).texts name)
        (if words.all fun name => s.meaning w name ≠ .nothing then 0 else 1) []

/-- What a builtin decides about its words, which stand behind an `Arguments.mark`. -/
def answer [Arguments.Reader] (b : Builtin) (s : Session) (w : η) (words : List String) : Answer :=
  match b.operands (Arguments.mark :: words) with
  | .ok operands => b.verdict s w operands
  | .error stop => .untaken b stop

/-- What a builtin decides, told by its words: a surplus is not taken, and else there is a
    `verdict`. -/
theorem answer_eq [Arguments.Reader] (b : Builtin) (s : Session) (w : η) (words : List String) :
    b.answer s w words =
      match b.surplus? words with
      | some word => .untaken b (.unrecognized word)
      | none => b.verdict s w words := by
  rw [answer, operands_mark]
  cases b.surplus? words <;> rfl

end Builtin

/-- Put an answer into effect, and write its text.  The session changes before anything is written.
    If the text of a builtin cannot be written, its place is taken by the reason. -/
def Answer.deliver {σ : Type} [Console σ] : Answer → Act σ Status
  | untaken b stop => do
    Act.say (stop.texts b.grammar.usage)
    return stop.status
  | refused r => do
    Act.say (r.texts ++ ["\n"])
    return 1
  | done session texts status findings => do
    Act.noteAll findings
    Act.setSession session
    -- Only this text is guarded: a fault while the reason is written ends the turn.
    tryCatch
      (do
        Act.say texts
        return status)
      fun f => do
        Act.say [f.message, "\n"]
        return 1

/-- The factory of a builtin, which knows it by its `name`. -/
def Builtin.factory {σ : Type} [Console σ] [Machine σ] [Arguments.Reader] (b : Builtin) :
    Factory σ where
  builtinName := some b.name
  create? s w name words :=
    if name = b.name then some { execute := (b.answer s w words).deliver } else none

end LineShell
